import RouteExplorer.Number.Binary64
import RouteExplorer.Route.Encoding
import RouteExplorer.Search.Engine

namespace RouteExplorer.Search

open Json (Value)

inductive DisplayMode where
  | flat
  | grouped
deriving DecidableEq, Repr

namespace DisplayMode

def toggled : DisplayMode → DisplayMode
  | .flat => .grouped
  | .grouped => .flat

def text : DisplayMode → String
  | .flat => "flat"
  | .grouped => "grouped"

end DisplayMode

structure ViewState where
  displayMode : DisplayMode
  expandedOwners : List String
  focusedOwner : Option String
  searchQuery : String
deriving DecidableEq, Repr

/-- A mean: a total over a number of summands. -/
structure MeanScore where
  total : Nat
  count : Nat
deriving DecidableEq, Repr

namespace MeanScore

def zero : MeanScore := ⟨0, 0⟩

def ofMatches (matched : List MatchedRoute) : MeanScore :=
  ⟨(matched.map MatchedRoute.matchedCount).foldr (· + ·) 0, matched.length⟩

/-- Compare two means as exact quotients; no summands count as zero. -/
def atLeast (left right : MeanScore) : Bool :=
  right.total * max left.count 1 ≤ left.total * max right.count 1

def value (score : MeanScore) : Number.Binary64 :=
  let rounded (count : Nat) : Number.Binary64 :=
    (Number.Binary64.ofNat? count).getD (Number.Binary64.zero false)
  ((rounded score.total).divide? (rounded (max score.count 1))).getD (Number.Binary64.zero false)

end MeanScore

structure OwnerGroup where
  ownerName : String
  basePath : String
  sourceFile : FilePath
  matchedRoutes : List MatchedRoute
  totalRoutes : Nat
  isExpanded : Bool
  score : MeanScore
deriving DecidableEq, Repr

structure SearchResult where
  grouped : List OwnerGroup
  flat : List MatchedRoute
  displayMode : DisplayMode
  totalMatches : Nat
  totalEndpoints : Nat
deriving DecidableEq, Repr

def HighlightRange.encode (range : HighlightRange) : Value :=
  .array [.natural range.start, .natural range.stop]

def HighlightSpan.encode (span : HighlightSpan) : Value :=
  .object [
    ("fieldKey", .string span.fieldKey),
    ("ranges", .array (span.ranges.map HighlightRange.encode))]

def MatchedRoute.encode (matched : MatchedRoute) : Value :=
  .object [
    ("route", matched.route.encode),
    ("highlightSpans", .array (matched.spans.map HighlightSpan.encode))]

def OwnerGroup.encode (group : OwnerGroup) : Value :=
  .object [
    ("ownerName", .string group.ownerName),
    ("basePath", .string group.basePath),
    ("sourceFile", .string group.sourceFile.text),
    ("matchedRoutes", .array (group.matchedRoutes.map MatchedRoute.encode)),
    ("totalRoutesInOwner", .natural group.totalRoutes),
    ("isExpanded", .bool group.isExpanded),
    ("matchScore", .number (.real group.score.value))]

def SearchResult.encode (result : SearchResult) : Value :=
  .object [
    ("grouped", .array (result.grouped.map OwnerGroup.encode)),
    ("flat", .array (result.flat.map MatchedRoute.encode)),
    ("displayMode", .string result.displayMode.text),
    ("totalMatches", .natural result.totalMatches),
    ("totalEndpoints", .natural result.totalEndpoints)]

/-- A view without a focused owner is written without that field. -/
def ViewState.encode (view : ViewState) : Value :=
  let focused := match view.focusedOwner with
    | some owner => [("focusedOwner", Value.string owner)]
    | none => []
  .object ([
    ("displayMode", .string view.displayMode.text),
    ("expandedOwners", .strings view.expandedOwners)] ++ focused ++
    [("searchQuery", .string view.searchQuery)])

end RouteExplorer.Search
