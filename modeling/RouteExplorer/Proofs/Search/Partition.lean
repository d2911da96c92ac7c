import Mathlib.Data.List.Perm.Subperm
import RouteExplorer.Proofs.Search.View
import RouteExplorer.Proofs.Session.Consistency

namespace RouteExplorer

namespace Search

def ownersNamed (controllers : List Controller) (name : String) : Nat :=
  (controllers.map Controller.name).count name

theorem exists_only_of_ownersNamed {controllers : List Controller} {name : String}
    (single : ownersNamed controllers name = 1) :
    ∃ only, controllers.filter (fun controller => controller.name == name) = [only] := by
  apply List.length_eq_one_iff.mp
  rw [← single, ownersNamed, List.count, List.countP_map, List.countP_eq_length_filter]
  rfl

theorem eq_of_ownersNamed {controllers : List Controller} {left right : Controller}
    (single : ownersNamed controllers left.name = 1) (left_known : left ∈ controllers)
    (right_known : right ∈ controllers) (same : right.name = left.name) : right = left := by
  obtain ⟨only, shape⟩ := exists_only_of_ownersNamed single
  have left_only : left ∈ [only] := by
    rw [← shape]
    exact List.mem_filter.mpr ⟨left_known, by simp⟩
  have right_only : right ∈ [only] := by
    rw [← shape]
    exact List.mem_filter.mpr ⟨right_known, by simp [same]⟩
  rw [List.mem_singleton.mp left_only, List.mem_singleton.mp right_only]

theorem countP_ownerName {controllers : List Controller}
    (owned : ∀ controller ∈ controllers, controller.OwnsRoutes) (name : String) :
    (controllers.flatMap Controller.routes).countP (fun route => route.ownerName == name) =
      ((controllers.filter fun controller => controller.name == name).flatMap Controller.routes).length := by
  induction controllers with
  | nil => rfl
  | cons controller rest ih =>
    obtain ⟨own, others⟩ := List.forall_mem_cons.mp owned
    rw [List.flatMap_cons, List.countP_append, ih others]
    by_cases same : controller.name = name
    · have all : controller.routes.countP (fun route => route.ownerName == name) = controller.routes.length :=
        List.countP_eq_length.mpr fun route member => by simp [(own route member).1, same]
      simp [all, same]
    · have none : controller.routes.countP (fun route => route.ownerName == name) = 0 :=
        List.countP_eq_zero.mpr fun route member => by simp [(own route member).1, same]
      simp [none, same]

/-- The matches of the groups, one group after the other. -/
def SearchResult.grouping (result : SearchResult) : List MatchedRoute :=
  result.grouped.flatMap OwnerGroup.matchedRoutes

private theorem hits_sublist (matcher : Matcher) (routes : List Route) (query : String) :
    ((hits matcher routes query).map Prod.fst).Sublist routes := by
  induction routes with
  | nil => simp [hits]
  | cons route rest ih =>
    cases found : matcher query route.fullPath with
    | none => simpa [hits, found] using ih.cons route
    | some result => simpa [hits, found] using ih.cons_cons route

/-- Searches find each route at most once. -/
theorem searchWith_subperm (matcher : Matcher) (routes : List Route) (query : String) :
    ((searchWith matcher routes query).map MatchedRoute.route).Subperm routes := by
  unfold searchWith
  split
  · simpa [MatchedRoute.plain, Function.comp_def] using List.Subperm.refl routes
  · have ranked : ((hits matcher routes query).mergeSort
        fun left right => right.2.score ≤ left.2.score).Perm (hits matcher routes query) :=
      List.mergeSort_perm _ _
    refine ⟨(hits matcher routes query).map Prod.fst, ?_, hits_sublist matcher routes query⟩
    simpa [MatchedRoute.ofMatch, Function.comp_def] using (ranked.map Prod.fst).symm

namespace Grouping

private theorem flatMap_filter_nonempty (groups : List OwnerGroup) :
    (groups.filter fun group => !group.matchedRoutes.isEmpty).flatMap OwnerGroup.matchedRoutes =
      groups.flatMap OwnerGroup.matchedRoutes := by
  induction groups with
  | nil => rfl
  | cons group rest ih =>
    cases matched : group.matchedRoutes with
    | nil => simp [matched, ih]
    | cons head tail => simp [matched, ih]

/-- Leaving out empty groups and ranking the others moves no match. -/
theorem rankedGroups_perm (grouping : Grouping) (matched : List MatchedRoute) {query : String}
    (asked : Text.isAllBlank query = false) :
    ((grouping.rankedGroups matched query).flatMap OwnerGroup.matchedRoutes).Perm
      ((grouping.allGroups matched).flatMap OwnerGroup.matchedRoutes) := by
  simp only [rankedGroups, asked, Bool.false_eq_true, ↓reduceIte]
  refine ((List.mergeSort_perm _ _).flatMap_right _).trans ?_
  rw [flatMap_filter_nonempty]

theorem allGroups_matches (grouping : Grouping) (matched : List MatchedRoute) :
    (grouping.allGroups matched).flatMap OwnerGroup.matchedRoutes =
      grouping.controllers.flatMap fun controller => ownedBy controller.name matched := by
  rw [allGroups, List.flatMap_map]
  rfl

/-- Each match occurs once in the group of each controller of its name. -/
theorem count_allGroups (grouping : Grouping) (matched : List MatchedRoute) (found : MatchedRoute) :
    ((grouping.allGroups matched).flatMap OwnerGroup.matchedRoutes).count found =
      ownersNamed grouping.controllers found.route.ownerName * matched.count found := by
  rw [allGroups_matches]
  unfold ownersNamed
  induction grouping.controllers with
  | nil => simp
  | cons controller rest ih =>
    rw [List.flatMap_cons, List.count_append, ih, List.map_cons, List.count_cons]
    by_cases same : controller.name = found.route.ownerName
    · have own : (ownedBy controller.name matched).count found = matched.count found :=
        List.count_filter (by simp [same])
      rw [own, if_pos (beq_iff_eq.mpr same), Nat.add_mul, Nat.one_mul, Nat.add_comm]
    · have other : (ownedBy controller.name matched).count found = 0 := by
        apply List.count_eq_zero.mpr
        intro member
        exact same (beq_iff_eq.mp (List.mem_filter.mp member).2).symm
      rw [other, if_neg (by simpa using same), Nat.zero_add, Nat.add_zero]

/-- The groups hold each match once exactly when each match has one controller of its name. -/
theorem result_perm_iff (grouping : Grouping) (matched : List MatchedRoute) {query : String}
    (asked : Text.isAllBlank query = false) :
    (grouping.result matched query).grouping.Perm matched ↔
      ∀ found ∈ matched, ownersNamed grouping.controllers found.route.ownerName = 1 := by
  have ranked := grouping.rankedGroups_perm matched asked
  have counts : (grouping.result matched query).grouping.Perm matched ↔
      ∀ found, ownersNamed grouping.controllers found.route.ownerName * matched.count found =
        matched.count found := by
    rw [List.perm_iff_count]
    refine forall_congr' fun found => ?_
    rw [← count_allGroups, ← ranked.count_eq]
    rfl
  rw [counts]
  constructor
  · intro each found member
    have positive : 0 < matched.count found := List.count_pos_iff.mpr member
    exact Nat.eq_of_mul_eq_mul_right positive ((each found).trans (Nat.one_mul _).symm)
  · intro each found
    by_cases member : found ∈ matched
    · rw [each found member, Nat.one_mul]
    · rw [List.count_eq_zero.mpr member, Nat.mul_zero]

end Grouping

end Search

open Search Search.Grouping

namespace Session

variable {session : Session} {query : String}

theorem Consistent.owner_of_found (consistent : session.Consistent) {found : MatchedRoute}
    (present : found ∈ search session.searched query) :
    ∃ owner ∈ session.store.snapshot.controllers,
      found.route.ownerName = owner.name ∧ found.route.sourceFile = owner.sourceFile := by
  have listed : found.route ∈ session.searched :=
    (searchWith_subperm _ _ _).subset (List.mem_map_of_mem present)
  rw [consistent.searched, consistent.whole] at listed
  obtain ⟨owner, known, own⟩ := List.mem_flatMap.mp listed
  exact ⟨owner, known, consistent.shown owner known found.route own⟩

theorem Consistent.ownedBy_length_le (consistent : session.Consistent) {controller : Controller}
    (known : controller ∈ session.store.snapshot.controllers)
    (single : ∀ found ∈ ownedBy controller.name (search session.searched query),
      ownersNamed session.store.snapshot.controllers controller.name = 1) :
    (ownedBy controller.name (search session.searched query)).length ≤ controller.routes.length := by
  cases own : ownedBy controller.name (search session.searched query) with
  | nil => simp
  | cons found others =>
    obtain ⟨only, shape⟩ := exists_only_of_ownersNamed (single found (by simp [own]))
    have same : controller = only := by
      have listed : controller ∈ [only] := by
        rw [← shape]
        exact List.mem_filter.mpr ⟨known, by simp⟩
      exact List.mem_singleton.mp listed
    calc (found :: others).length
        = ((search session.searched query).map MatchedRoute.route).countP
            (fun route => route.ownerName == controller.name) := by
          rw [← own, ownedBy, ← List.countP_eq_length_filter, List.countP_map]
          rfl
      _ ≤ session.searched.countP (fun route => route.ownerName == controller.name) :=
          (searchWith_subperm _ _ _).countP_le _
      _ = controller.routes.length := by
          rw [consistent.searched, consistent.whole, countP_ownerName consistent.shown, shape, ← same]
          simp

end Session

namespace Explorer

/-- The groups of a search share its matches out among the controllers, each match to the file that it
is from and no controller with more of them than it has routes, exactly when every match belongs to a
name that only one controller has. -/
theorem groups_partition_iff {explorer : Explorer} (reached : explorer.Reached) {query : String}
    (asked : Text.isAllBlank query = false) :
    ((explorer.session.searchGrouped query).1.grouping.Perm (explorer.session.searchGrouped query).1.flat ∧
      (∀ group ∈ (explorer.session.searchGrouped query).1.grouped,
        (∀ found ∈ group.matchedRoutes, found.route.sourceFile = group.sourceFile) ∧
          group.matchedRoutes.length ≤ group.totalRoutes)) ↔
      ∀ found ∈ (explorer.session.searchGrouped query).1.flat,
        ownersNamed explorer.session.store.snapshot.controllers found.route.ownerName = 1 := by
  have consistent := reached.consistent
  let grouping := (explorer.session.grouping.setQuery query).sync
  let matched := search explorer.session.searched query
  have answer : (explorer.session.searchGrouped query).1 = grouping.result matched query := by
    simp only [Session.searchGrouped, asked, Bool.false_eq_true, ↓reduceIte]
    rfl
  have controllers : grouping.controllers = explorer.session.store.snapshot.controllers := consistent.grouped
  rw [answer]
  have flat : (grouping.result matched query).flat = matched := rfl
  rw [flat, grouping.result_perm_iff matched asked, controllers]
  refine and_iff_left_of_imp fun single group member => ?_
  obtain ⟨controller, known, rfl⟩ := Grouping.mem_rankedGroups member
  rw [controllers] at known
  have mine {found : MatchedRoute} (own : found ∈ ownedBy controller.name matched) :
      found ∈ matched ∧ found.route.ownerName = controller.name := by
    obtain ⟨present, named⟩ := List.mem_filter.mp own
    exact ⟨present, by simpa using named⟩
  constructor
  · intro found own
    obtain ⟨present, named⟩ := mine own
    obtain ⟨owner, listed, sourced⟩ := consistent.owner_of_found present
    have same : owner = controller :=
      eq_of_ownersNamed (named ▸ single found present) known listed (sourced.1.symm.trans named)
    exact same ▸ sourced.2
  · exact consistent.ownedBy_length_le known fun found own => (mine own).2 ▸ single found (mine own).1

def catsAndDogs : Explorer :=
  (overDirectories [("v", controllerText "Cats" "@Get('one')a()\x7b\x7d"),
    ("w", controllerText "Dogs" "@Get('two')a()\x7b\x7d")]).run [.refresh]

theorem catsAndDogs_partition :
    catsAndDogs.Reached ∧ (catsAndDogs.session.searchGrouped "one").1.flat.length = 1 ∧
      (catsAndDogs.session.searchGrouped "one").1.grouping.Perm
        (catsAndDogs.session.searchGrouped "one").1.flat ∧
      ∀ group ∈ (catsAndDogs.session.searchGrouped "one").1.grouped,
        (∀ found ∈ group.matchedRoutes, found.route.sourceFile = group.sourceFile) ∧
          group.matchedRoutes.length ≤ group.totalRoutes := by
  have reached : catsAndDogs.Reached := ⟨_, [.refresh], fresh_overDirectories (by decide), rfl⟩
  exact ⟨reached, by decide +kernel, (groups_partition_iff reached (by decide)).mpr (by decide +kernel)⟩

def catsAndCats : Explorer :=
  (overDirectories [("v", controllerText "Cats" "@Get('one')a()\x7b\x7d"),
    ("w", controllerText "Cats" "@Get('two')a()\x7b\x7d")]).run [.refresh]

/-- Both groups hold the only match, although it belongs to one of them. -/
theorem catsAndCats_no_partition :
    catsAndCats.Reached ∧ Text.isAllBlank "one" = false ∧
      ¬((catsAndCats.session.searchGrouped "one").1.grouping.Perm
          (catsAndCats.session.searchGrouped "one").1.flat ∧
        ∀ group ∈ (catsAndCats.session.searchGrouped "one").1.grouped,
          (∀ found ∈ group.matchedRoutes, found.route.sourceFile = group.sourceFile) ∧
            group.matchedRoutes.length ≤ group.totalRoutes) := by
  refine ⟨⟨_, [.refresh], fresh_overDirectories (by decide), rfl⟩, by decide, ?_⟩
  rintro ⟨shared, _⟩
  have asked : Text.isAllBlank "one" = false := by decide
  have ranked := Grouping.rankedGroups_perm (catsAndCats.session.grouping.setQuery "one").sync
    (search catsAndCats.session.searched "one") asked
  exact absurd (ranked.symm.trans shared).length_eq (by decide +kernel)

end Explorer

end RouteExplorer
