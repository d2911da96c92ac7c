import RouteExplorer.Search.Result

/-!
Grouping search results by controller, and the state of the view. Every owner is expanded unless
the user collapsed it; collapsing is remembered by name, also while no controller has that name.
-/
namespace RouteExplorer.Search

/-- The known controllers, the state of the view and the names of the collapsed owners. -/
structure Grouping where
  controllers : List Controller
  view : ViewState
  collapsed : List String
deriving DecidableEq, Repr

namespace Grouping

/-- Whether an owner counts as expanded, known or not. -/
def isExpanded (grouping : Grouping) (owner : String) : Bool := !grouping.collapsed.contains owner

/-- List the expanded owners among the known controllers. -/
def sync (grouping : Grouping) : Grouping :=
  let expanded := (grouping.controllers.map Controller.name).filter grouping.isExpanded
  { grouping with view := { grouping.view with expandedOwners := expanded } }

def ofControllers (controllers : List Controller) : Grouping :=
  sync ⟨controllers, ⟨.flat, [], none, ""⟩, []⟩

def updateControllers (grouping : Grouping) (controllers : List Controller) : Grouping :=
  sync { grouping with controllers := controllers }

def setQuery (grouping : Grouping) (query : String) : Grouping :=
  { grouping with view := { grouping.view with searchQuery := query } }

def toggleDisplayMode (grouping : Grouping) : Grouping :=
  { grouping with
    view := { grouping.view with displayMode := grouping.view.displayMode.toggled } }

/-- Collapse or expand an owner. An expanded owner gets the focus, a collapsed one takes it away. -/
def toggleOwner (grouping : Grouping) (owner : String) : Grouping :=
  let collapsed :=
    if grouping.collapsed.contains owner then grouping.collapsed.filter (· != owner)
    else owner :: grouping.collapsed
  let toggled := sync { grouping with collapsed := collapsed }
  let focused := if toggled.isExpanded owner then some owner else none
  { toggled with view := { toggled.view with focusedOwner := focused } }

def totalEndpoints (grouping : Grouping) : Nat :=
  (grouping.controllers.map fun controller => controller.routes.length).foldr (· + ·) 0

def group (grouping : Grouping) (controller : Controller) (matched : List MatchedRoute)
    (score : MeanScore) : OwnerGroup :=
  { ownerName := controller.name
    basePath := controller.basePath
    sourceFile := controller.sourceFile
    matchedRoutes := matched
    totalRoutes := controller.routes.length
    isExpanded := grouping.isExpanded controller.name
    score }

def ownedBy (owner : String) (matched : List MatchedRoute) : List MatchedRoute :=
  matched.filter fun found => found.route.ownerName == owner

/-- One group for each controller, with the matches of its name, in controller order. -/
def allGroups (grouping : Grouping) (matched : List MatchedRoute) : List OwnerGroup :=
  grouping.controllers.map fun controller =>
    let owned := ownedBy controller.name matched
    grouping.group controller owned (MeanScore.ofMatches owned)

/-- The groups that are shown for a query: for a blank one all of them, otherwise those with a match
by descending score, equal scores in controller order. -/
def rankedGroups (grouping : Grouping) (matched : List MatchedRoute) (query : String) :
    List OwnerGroup :=
  let groups := grouping.allGroups matched
  if Text.isAllBlank query then groups
  else (groups.filter fun group => !group.matchedRoutes.isEmpty).mergeSort
    fun left right => left.score.atLeast right.score

def result (grouping : Grouping) (matched : List MatchedRoute) (query : String) : SearchResult :=
  { grouped := grouping.rankedGroups matched query
    flat := matched
    displayMode := grouping.view.displayMode
    totalMatches := matched.length
    totalEndpoints := grouping.totalEndpoints }

/-- The result without a query: one group for each controller with all of its routes. -/
def initialResult (grouping : Grouping) : SearchResult :=
  let plainRoutes (controller : Controller) : List MatchedRoute :=
    controller.routes.map MatchedRoute.plain
  { grouped := grouping.controllers.map fun controller =>
      grouping.group controller (plainRoutes controller) MeanScore.zero
    flat := grouping.controllers.flatMap plainRoutes
    displayMode := grouping.view.displayMode
    totalMatches := grouping.totalEndpoints
    totalEndpoints := grouping.totalEndpoints }

end Grouping

end RouteExplorer.Search
