import Mathlib.Data.List.FinRange
import RouteExplorer.Proofs.Search.Ranking
import RouteExplorer.Proofs.Session.Searches

namespace RouteExplorer.Search

variable (matcher : Matcher) (routes : List Route) (query : String)

/-- The hits of a query by the indices of their routes, in index order. -/
def indexedHits : List (Fin routes.length × Match) :=
  (List.finRange routes.length).filterMap fun index =>
    (matcher query routes[index].fullPath).map fun found => (index, found)

theorem hits_eq_map :
    hits matcher routes query =
      (indexedHits matcher routes query).map fun hit => (routes[hit.1], hit.2) := by
  have listed : (List.finRange routes.length).map (fun index => routes[index]) = routes :=
    List.map_getElem_finRange routes
  rw [indexedHits, List.map_filterMap]
  conv_lhs => rw [hits, ← listed, List.filterMap_map]
  refine List.filterMap_congr fun index _ => ?_
  simp [Function.comp_def]

theorem mem_indexedHits {index : Fin routes.length} {found : Match} :
    (index, found) ∈ indexedHits matcher routes query ↔ matcher query routes[index].fullPath = some found := by
  simp [indexedHits]

theorem pairwise_indexedHits :
    (indexedHits matcher routes query).Pairwise fun left right => left.1 < right.1 := by
  apply List.Pairwise.filterMap _ _ (List.pairwise_lt_finRange routes.length)
  intro first second before hit hit_found other other_found
  obtain ⟨_, _, rfl⟩ := Option.map_eq_some_iff.mp hit_found
  obtain ⟨_, _, rfl⟩ := Option.map_eq_some_iff.mp other_found
  exact before

theorem hits_filter (keeps : Route → Bool) :
    hits matcher (routes.filter keeps) query =
      (hits matcher routes query).filter fun hit => keeps hit.1 := by
  rw [hits, hits, List.filterMap_filter, List.filter_filterMap]
  refine List.filterMap_congr fun route _ => ?_
  cases matcher query route.fullPath <;> simp [Option.filter]

/-- The matches of a query are its hits, ranked by their scores. -/
theorem searchWith_of_asked {query : String} (asked : Text.isAllBlank query = false) {ranked : List (Route × Match)}
    (ranks : RankedBy (fun hit => hit.2.score) (hits matcher routes query) ranked) :
    searchWith matcher routes query = ranked.map fun hit => MatchedRoute.ofMatch hit.1 hit.2 := by
  have sorted : RankedBy (fun hit : Route × Match => hit.2.score) (hits matcher routes query)
      ((hits matcher routes query).mergeSort fun left right => right.2.score ≤ left.2.score) :=
    rankedBy_mergeSort (fun _ _ => decide_eq_true_iff) _
  rw [ranks.unique sorted, searchWith, if_neg (by simp [asked])]

theorem searchWith_filter (keeps : Route → Bool) :
    searchWith matcher (routes.filter keeps) query =
      (searchWith matcher routes query).filter fun found => keeps found.route := by
  by_cases asked : Text.isAllBlank query = false
  · obtain ⟨ranked, ranks⟩ :=
      exists_ranking (fun hit : Route × Match => hit.2.score) (hits matcher routes query)
    have part := ranks.filter fun hit => keeps hit.1
    rw [← hits_filter] at part
    rw [searchWith_of_asked matcher _ asked part, searchWith_of_asked matcher _ asked ranks, List.filter_map]
    rfl
  · have blank : Text.isAllBlank query = true := by simpa using asked
    rw [searchWith, searchWith, if_pos blank, if_pos blank, List.filter_map]
    rfl

/-- The hits of a query in the order of the matches: by descending score, hits with equal scores by their
indices. -/
theorem exists_order {query : String} (asked : Text.isAllBlank query = false) :
    ∃ order : List (Fin routes.length × Match),
      order.Nodup ∧
        (∀ index found, (index, found) ∈ order ↔ matcher query routes[index].fullPath = some found) ∧
        (order.Pairwise fun left right =>
          right.2.score < left.2.score ∨ left.2.score = right.2.score ∧ left.1 < right.1) ∧
        searchWith matcher routes query =
          order.map fun hit => MatchedRoute.ofMatch routes[hit.1] hit.2 := by
  obtain ⟨order, ranks⟩ :=
    exists_ranking (fun hit : Fin routes.length × Match => hit.2.score) (indexedHits matcher routes query)
  have ordered := ranks.pairwise (pairwise_indexedHits matcher routes query)
  refine ⟨order, ordered.imp ?_, fun index found => ?_, ordered, ?_⟩
  · rintro left right before rfl
    simp at before
  · rw [ranks.perm.mem_iff]
    exact mem_indexedHits matcher routes query
  · let hitAt (hit : Fin routes.length × Match) : Route × Match := (routes[hit.1], hit.2)
    have images : RankedBy (fun hit : Route × Match => hit.2.score) (hits matcher routes query)
        (order.map hitAt) := by
      rw [hits_eq_map]
      exact RankedBy.map ranks
    rw [searchWith_of_asked matcher routes asked images, List.map_map]
    rfl

/-- A search of some of the routes finds what a search of all of them finds among these, for any matcher. Each
matching route is found once, by descending score and then by its index, and whatever was searched for in the
course of a run, the same is found behind it. -/
theorem searches_narrow (matcher : Matcher) (routes : List Route) (query : String) :
    (∀ keeps : Route → Bool, searchWith matcher (routes.filter keeps) query =
        (searchWith matcher routes query).filter fun found => keeps found.route) ∧
      (Text.isAllBlank query = false → ∃ order : List (Fin routes.length × Match),
        order.Nodup ∧
          (∀ index found, (index, found) ∈ order ↔ matcher query routes[index].fullPath = some found) ∧
          (order.Pairwise fun left right =>
            right.2.score < left.2.score ∨ left.2.score = right.2.score ∧ left.1 < right.1) ∧
          searchWith matcher routes query =
            order.map fun hit => MatchedRoute.ofMatch routes[hit.1] hit.2) ∧
      ∀ (start : Explorer) (actions : List Explorer.Action),
        let session := (start.run actions).session
        let unasked := (start.run (actions.filter fun action => !action.searches)).session
        searchWith matcher session.searched query = searchWith matcher unasked.searched query ∧
          (session.searchFlat query).1 = (unasked.searchFlat query).1 ∧
          (session.searchGrouped query).1 = (unasked.searchGrouped query).1 := by
  refine ⟨searchWith_filter matcher routes query, exists_order matcher routes, fun start actions => ?_⟩
  have alike := Explorer.answersLike_run start.disk (.refl start.session) actions
  exact ⟨congrArg (searchWith matcher · query) alike.searched, alike.searchFlat query,
    alike.searchGrouped query⟩

def pathRoute (path : String) : Route := ⟨"GET", "", path, ⟨"cats.ts"⟩, 1, 0, "Cats", "list", [], []⟩

def catRoutes : List Route := ["/cats/:id", "/dogs", "/cats", "/cat", "/cats"].map pathRoute

/-- Paths that begin with the query match, shorter ones better. -/
def beginMatcher : Matcher := fun query path =>
  if query.toList.isPrefixOf path.toList then some ⟨100 - path.length, List.range query.length⟩ else none

theorem catRoutes_narrowed :
    Text.isAllBlank "/c" = false ∧
      (searchWith beginMatcher catRoutes "/c").map (fun found => found.route.fullPath) =
        ["/cat", "/cats", "/cats", "/cats/:id"] ∧
      searchWith beginMatcher (catRoutes.filter fun route => route.fullPath != "/cat") "/c" =
        ((searchWith beginMatcher catRoutes "/c").filter fun found => found.route.fullPath != "/cat") ∧
      ∃ order : List (Fin catRoutes.length × Match),
        order.Nodup ∧
          (∀ index found, (index, found) ∈ order ↔ beginMatcher "/c" catRoutes[index].fullPath = some found) ∧
          (order.Pairwise fun left right =>
            right.2.score < left.2.score ∨ left.2.score = right.2.score ∧ left.1 < right.1) ∧
          searchWith beginMatcher catRoutes "/c" =
            order.map fun hit => MatchedRoute.ofMatch catRoutes[hit.1] hit.2 := by
  have asked : Text.isAllBlank "/c" = false := by decide
  have found : hits beginMatcher catRoutes "/c" =
      [(pathRoute "/cats/:id", ⟨91, [0, 1]⟩), (pathRoute "/cats", ⟨95, [0, 1]⟩),
        (pathRoute "/cat", ⟨96, [0, 1]⟩), (pathRoute "/cats", ⟨95, [0, 1]⟩)] := by decide +kernel
  have paths : (searchWith beginMatcher catRoutes "/c").map (fun found => found.route.fullPath) =
      ["/cat", "/cats", "/cats", "/cats/:id"] := by
    rw [searchWith, if_neg (by decide), found]
    simp [List.mergeSort, List.MergeSort.Internal.splitInTwo, MatchedRoute.ofMatch, pathRoute]
  obtain ⟨narrows, ordered, _⟩ := searches_narrow beginMatcher catRoutes "/c"
  exact ⟨asked, paths, narrows fun route => route.fullPath != "/cat", ordered asked⟩

end RouteExplorer.Search
