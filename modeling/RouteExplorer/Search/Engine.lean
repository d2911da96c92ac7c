import RouteExplorer.Route.Descriptor
import RouteExplorer.Search.Fuzzy
import RouteExplorer.Search.Highlight

namespace RouteExplorer.Search

/-- A route of a search result with what is highlighted in it. -/
structure MatchedRoute where
  route : Route
  spans : List HighlightSpan
  /-- The number of matched characters. -/
  matchedCount : Nat
deriving DecidableEq, Repr

abbrev Matcher := String → String → Option Match

def fullPathKey : String := "fullPath"

namespace MatchedRoute

def plain (route : Route) : MatchedRoute := ⟨route, [], 0⟩

def ofMatch (route : Route) (found : Match) : MatchedRoute :=
  let positions := orderedPositions found.positions
  let spans := match highlightRanges positions with
    | [] => []
    | ranges => [⟨fullPathKey, ranges⟩]
  ⟨route, spans, positions.length⟩

end MatchedRoute

/-- The routes that match a query, with their matches, in index order. -/
def hits (matcher : Matcher) (routes : List Route) (query : String) : List (Route × Match) :=
  routes.filterMap fun route => (matcher query route.fullPath).map fun found => (route, found)

/-- The matching routes by descending score, equal scores in index order. A blank query finds every
route without highlights. -/
def searchWith (matcher : Matcher) (routes : List Route) (query : String) : List MatchedRoute :=
  if Text.isAllBlank query then routes.map MatchedRoute.plain
  else
    ((hits matcher routes query).mergeSort fun left right => right.2.score ≤ left.2.score).map
      fun hit => MatchedRoute.ofMatch hit.1 hit.2

def search (routes : List Route) (query : String) : List MatchedRoute :=
  searchWith fuzzyMatch routes query

end RouteExplorer.Search
