import RouteExplorer.Proofs.Number.Exact
import RouteExplorer.Proofs.Search.Agreement
import RouteExplorer.Proofs.Search.Groups
import RouteExplorer.Proofs.Search.Ranges

/-!
Groups of a search. A match takes as many characters of a path as its needle has, so that all groups of a
query have one score and stay in the order of the controllers, however well their matches score.
-/
namespace RouteExplorer

namespace Search

def needleOf (query : String) : List Char := foldNeedle (Text.trim query).toList

/-- A match reports one position for each character of the needle of a query, and none twice. -/
structure Match.Spells (found : Match) (query : String) : Prop where
  distinct : found.positions.Nodup
  complete : found.positions.length = (needleOf query).length

instance (found : Match) (query : String) : Decidable (found.Spells query) :=
  decidable_of_iff (found.positions.Nodup ∧ found.positions.length = (needleOf query).length)
    ⟨fun both => ⟨both.1, both.2⟩, fun spells => ⟨spells.distinct, spells.complete⟩⟩

theorem matchedCount_ofMatch {found : Match} {query : String} (spells : found.Spells query) (route : Route) :
    (MatchedRoute.ofMatch route found).matchedCount = (needleOf query).length :=
  (length_orderedPositions spells.distinct).trans spells.complete

theorem matchedCount_of_mem_searchWith {matcher : Matcher} {routes : List Route} {query : String}
    (asked : Text.isAllBlank query = false)
    (spells : ∀ route ∈ routes, ∀ found, matcher query route.fullPath = some found → found.Spells query)
    {matched : MatchedRoute} (member : matched ∈ searchWith matcher routes query) :
    matched.matchedCount = (needleOf query).length := by
  rw [searchWith, if_neg (by simp [asked])] at member
  obtain ⟨⟨route, found⟩, hit, rfl⟩ := List.mem_map.mp member
  obtain ⟨listed, known, matches_route⟩ := List.mem_filterMap.mp (List.mem_mergeSort.mp hit)
  obtain ⟨_, answers, same⟩ := Option.map_eq_some_iff.mp matches_route
  cases same
  exact matchedCount_ofMatch (spells route known found answers) route

namespace MeanScore

variable {matched : List MatchedRoute} {count : Nat}

theorem total_ofMatches (level : ∀ found ∈ matched, found.matchedCount = count) :
    (ofMatches matched).total = matched.length * count := by
  have counts : matched.map MatchedRoute.matchedCount = List.replicate matched.length count :=
    List.map_eq_replicate_iff.mpr level
  have total : (ofMatches matched).total = (matched.map MatchedRoute.matchedCount).sum := rfl
  rw [total, counts, List.sum_replicate_nat]

theorem quotient_of_level (present : matched ≠ []) (level : ∀ found ∈ matched, found.matchedCount = count) :
    (ofMatches matched).quotient = count := by
  have length_pos : 0 < matched.length := List.length_pos_iff.mpr present
  have number : (ofMatches matched).count = matched.length := rfl
  rw [quotient, total_ofMatches level, number, Nat.max_eq_left length_pos, Nat.cast_mul]
  exact mul_div_cancel_left₀ _ (Nat.cast_ne_zero.mpr length_pos.ne')

/-- A mean of small numbers that is a whole number is shown as that number. -/
theorem value_of_whole {score : MeanScore} (present : 0 < score.count) (small : score.total < 2 ^ 53)
    (countable : score.count < 2 ^ 53) (whole : score.total = score.count * count) :
    some score.value = Number.Binary64.ofNat? count := by
  obtain ⟨total, total_rounded, total_whole⟩ := Number.Binary64.exists_isNatural small
  obtain ⟨divisor, divisor_rounded, divisor_whole⟩ := Number.Binary64.exists_isNatural countable
  have divides : total.divide? divisor = Number.Binary64.ofNat? count := by
    rw [Number.Binary64.divide?_of_isNatural total_whole divisor_whole present, whole]
    exact (congrArg _ (Nat.mul_one _).symm).trans (Number.Binary64.ofRatio?_mul false present Nat.one_pos count)
  have fits : count < 2 ^ 53 := lt_of_le_of_lt (Nat.le_mul_of_pos_left count present) (whole ▸ small)
  obtain ⟨number, rounded, _⟩ := Number.Binary64.exists_isNatural fits
  rw [value, Nat.max_eq_left present]
  simp only [total_rounded, divisor_rounded, Option.getD_some, divides, rounded]

/-- A score of a whole number of characters for each match: as a quotient, and as it is shown while the numbers
are small. -/
structure Is (score : MeanScore) (count : Nat) : Prop where
  quotient : score.quotient = count
  value : score.total < 2 ^ 53 → score.count < 2 ^ 53 → some score.value = Number.Binary64.ofNat? count

theorem is_of_level (present : matched ≠ []) (level : ∀ found ∈ matched, found.matchedCount = count) :
    (ofMatches matched).Is count where
  quotient := quotient_of_level present level
  value small countable :=
    value_of_whole (List.length_pos_iff.mpr present) small countable (total_ofMatches level)

end MeanScore

namespace Grouping

variable {grouping : Grouping} {matched : List MatchedRoute} {count : Nat}

/-- Groups of matches with one number of matched characters have that number as their score. -/
theorem score_groupOf (level : ∀ found ∈ matched, found.matchedCount = count) {controller : Controller}
    (owner : controller ∈ owners grouping.controllers matched) :
    (grouping.groupOf matched controller).score.Is count := by
  obtain ⟨_, owns⟩ := List.mem_filter.mp owner
  obtain ⟨found, member, named⟩ := of_decide_eq_true owns
  have own : found ∈ ownedBy controller.name matched :=
    List.mem_filter.mpr ⟨member, beq_iff_eq.mpr named⟩
  exact MeanScore.is_of_level (List.ne_nil_of_mem own) fun other other_own =>
    level other (List.mem_filter.mp other_own).1

/-- Such groups stay in the order of their controllers. -/
theorem rankedGroups_of_level (level : ∀ found ∈ matched, found.matchedCount = count) {query : String}
    (asked : Text.isAllBlank query = false) :
    grouping.rankedGroups matched query =
      (owners grouping.controllers matched).map (grouping.groupOf matched) := by
  have ranks := grouping.ranked_rankedGroups matched asked
  refine ranks.eq_of_forall_key count fun group member => ?_
  obtain ⟨controller, owner, rfl⟩ := List.mem_map.mp member
  exact (score_groupOf level owner).quotient

end Grouping

end Search

open Search (Matcher MatchedRoute OwnerGroup SearchResult needleOf owners searchWith)

namespace Session

/-- The matches of a query by any matcher, and their groups. -/
def searchGroupedWith (matcher : Matcher) (session : Session) (query : String) : SearchResult × Session :=
  let grouping := (session.grouping.setQuery query).sync
  let result :=
    if Text.isAllBlank query then grouping.initialResult
    else grouping.result (searchWith matcher session.searched query) query
  (result, { session with grouping := grouping })

theorem searchGrouped_eq (session : Session) (query : String) :
    session.searchGrouped query = session.searchGroupedWith Search.fuzzyMatch query := rfl

end Session

namespace Explorer

theorem aligned_opened (disk : Disk) (index : FileIndex) (earlier : List Indexer.Action) (actions : List Action) :
    let opened := Indexer.run ⟨disk, .ofIndex index⟩ earlier
    (run ⟨opened.disk, .ofStore opened.store⟩ actions).session.Aligned :=
  run_induction Session.Aligned
    (Session.aligned_ofStore (Indexer.whole_run (Store.whole_ofIndex index) earlier))
    (fun _ action aligned => aligned_step aligned action) actions

/-- Behind anything that happens to a session, the groups of a query all have the number of its characters as
their score, and they stand in the order of the controllers of the store that own a match. Of the matcher it
only matters that it reports one position for each character. -/
theorem groups_even (matcher : Matcher) (disk : Disk) (index : FileIndex) (earlier : List Indexer.Action)
    (actions : List Action) {query : String} (asked : Text.isAllBlank query = false) :
    let opened := Indexer.run ⟨disk, .ofIndex index⟩ earlier
    let session := (run ⟨opened.disk, .ofStore opened.store⟩ actions).session
    let result := (session.searchGroupedWith matcher query).1
    (∀ route ∈ session.searched, ∀ found, matcher query route.fullPath = some found → found.Spells query) →
      result.flat = searchWith matcher session.store.snapshot.routes query ∧
        (∀ group ∈ result.grouped, group.score.Is (needleOf query).length) ∧
        List.Forall₂ (OwnerGroup.Gathers (session.searchGroupedWith matcher query).2.grouping result.flat)
          result.grouped (owners session.store.snapshot.controllers result.flat) := by
  intro opened session result spells
  have aligned : session.Aligned := aligned_opened disk index earlier actions
  let grouping := (session.grouping.setQuery query).sync
  let matched := searchWith matcher session.searched query
  have controllers : grouping.controllers = session.store.snapshot.controllers := aligned.grouped
  have built : result = grouping.result matched query := by
    change (if Text.isAllBlank query = true then _ else _) = _
    rw [if_neg (by simp [asked])]
  have level (found : MatchedRoute) (member : found ∈ matched) :
      found.matchedCount = (needleOf query).length :=
    Search.matchedCount_of_mem_searchWith asked spells member
  have flat : result.flat = matched := congrArg SearchResult.flat built
  have groups : result.grouped =
      (owners session.store.snapshot.controllers matched).map (grouping.groupOf matched) := by
    rw [built, ← controllers]
    exact Search.Grouping.rankedGroups_of_level level asked
  rw [flat, groups]
  refine ⟨congrArg (searchWith matcher · query) aligned.searched, fun group member => ?_, ?_⟩
  · obtain ⟨controller, owner, rfl⟩ := List.mem_map.mp member
    exact Search.Grouping.score_groupOf level (controllers ▸ owner)
  · exact grouping.forall₂_groupOf matched _

/-- Two controllers, of which the second one has the better match. -/
def scatteredCats : Explorer :=
  overDirectories [("v", controllerText "Cats" "@Get('c/a/t')a()\x7b\x7d"),
    ("w", controllerText "Dogs" "@Get('cat')a()\x7b\x7d")]

def scannedCats : Session :=
  (run ⟨scatteredCats.disk, .ofStore (.ofIndex scatteredCats.session.index)⟩ [.refresh]).session

theorem scannedCats_even :
    Text.isAllBlank "cat" = false ∧
      let result := (scannedCats.searchGrouped "cat").1
      (∀ route ∈ scannedCats.searched, ∀ found, Search.fuzzyMatch "cat" route.fullPath = some found →
          found.Spells "cat") ∧
        (scannedCats.searched.map fun route => (route.ownerName,
          (Search.fuzzyMatch "cat" route.fullPath).map Search.Match.score)) =
            [("Cats", some 78), ("Dogs", some 84)] ∧
        scannedCats.store.snapshot.controllers.map Controller.name = ["Cats", "Dogs"] ∧
        (∀ group ∈ result.grouped, group.score.Is (needleOf "cat").length) ∧
        List.Forall₂ (OwnerGroup.Gathers (scannedCats.searchGrouped "cat").2.grouping result.flat) result.grouped
          (owners scannedCats.store.snapshot.controllers result.flat) := by
  have asked : Text.isAllBlank "cat" = false := by decide
  -- all facts about the session in one evaluation, which scans the files once
  obtain ⟨spells, scores, names⟩ :
      (∀ route ∈ scannedCats.searched, ∀ found ∈ Search.fuzzyMatch "cat" route.fullPath, found.Spells "cat") ∧
        (scannedCats.searched.map fun route => (route.ownerName,
          (Search.fuzzyMatch "cat" route.fullPath).map Search.Match.score)) =
            [("Cats", some 78), ("Dogs", some 84)] ∧
        scannedCats.store.snapshot.controllers.map Controller.name = ["Cats", "Dogs"] := by
    decide +kernel
  obtain ⟨_, level, ordered⟩ :=
    groups_even Search.fuzzyMatch scatteredCats.disk scatteredCats.session.index [] [.refresh] asked spells
  rw [Session.searchGrouped_eq]
  exact ⟨asked, spells, scores, names, level, ordered⟩

end Explorer

end RouteExplorer
