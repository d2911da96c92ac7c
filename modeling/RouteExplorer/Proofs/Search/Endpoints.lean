import RouteExplorer.Proofs.Route.Identity
import RouteExplorer.Proofs.Session.Consistency

namespace RouteExplorer

namespace Search

def Match.spans (found : Match) : List HighlightSpan :=
  match highlightRanges (orderedPositions found.positions) with
  | [] => []
  | ranges => [⟨fullPathKey, ranges⟩]

def MatchedRoute.shown (matched : MatchedRoute) : (String × String) × List HighlightSpan :=
  (matched.route.endpoint, matched.spans)

def searchEndpoints (matcher : Matcher) (endpoints : List (String × String)) (query : String) :
    List ((String × String) × List HighlightSpan) :=
  if Text.isAllBlank query then endpoints.map fun endpoint => (endpoint, [])
  else
    let hits := endpoints.filterMap fun endpoint =>
      (matcher query endpoint.2).map fun found => (endpoint, found)
    (hits.mergeSort fun left right => right.2.score ≤ left.2.score).map fun hit => (hit.1, hit.2.spans)

/-- A search of routes shows what a search of their endpoints shows. -/
theorem shown_searchWith (matcher : Matcher) (routes : List Route) (query : String) :
    (searchWith matcher routes query).map MatchedRoute.shown =
      searchEndpoints matcher (routes.map Route.endpoint) query := by
  let endpointOf (hit : Route × Match) : (String × String) × Match := (hit.1.endpoint, hit.2)
  have hits_eq : (hits matcher routes query).map endpointOf =
      (routes.map Route.endpoint).filterMap fun endpoint =>
        (matcher query endpoint.2).map fun found => (endpoint, found) := by
    rw [hits, List.map_filterMap, List.filterMap_map]
    refine List.filterMap_congr fun route _ => ?_
    change _ = (matcher query route.fullPath).map fun found => (route.endpoint, found)
    cases matcher query route.fullPath <;> rfl
  unfold searchWith searchEndpoints
  split
  · rw [List.map_map, List.map_map]
    rfl
  · have ranked : ((hits matcher routes query).mergeSort
          fun left right => right.2.score ≤ left.2.score).map endpointOf =
        ((hits matcher routes query).map endpointOf).mergeSort
          fun left right => right.2.score ≤ left.2.score :=
      List.map_mergeSort fun _ _ _ _ => rfl
    rw [← hits_eq]
    dsimp only
    rw [← ranked, List.map_map, List.map_map]
    rfl

end Search

namespace Session

open Search (MatchedRoute)

variable {session : Session}

theorem Aligned.flat_searchGrouped (aligned : session.Aligned) (query : String) :
    (session.searchGrouped query).1.flat = Search.search session.store.snapshot.routes query := by
  unfold searchGrouped
  dsimp only
  split
  · next blank =>
    have controllers : (session.grouping.setQuery query).sync.controllers =
        session.store.snapshot.controllers := aligned.grouped
    rw [Search.search, Search.searchWith, if_pos blank, Search.Grouping.initialResult, controllers,
      aligned.whole, List.map_flatMap]
  · rw [aligned.searched]
    rfl

/-- What a search shows depends on the endpoints of the snapshot. -/
theorem Consistent.shown_searchGrouped (consistent : session.Consistent) (query : String) :
    (session.searchGrouped query).1.flat.map MatchedRoute.shown =
      Search.searchEndpoints Search.fuzzyMatch session.store.snapshot.endpoints query := by
  rw [consistent.aligned.flat_searchGrouped]
  exact Search.shown_searchWith Search.fuzzyMatch _ query

end Session

end RouteExplorer
