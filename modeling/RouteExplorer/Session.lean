import RouteExplorer.Index.Store
import RouteExplorer.Search.Grouping

/-!
A session of the explorer: a store, the routes that searches look through and the groups of the view.
Both follow the store at every refresh, since a change of names alone leaves the identities as they
are.
-/
namespace RouteExplorer

open Glob (PatternError)
open Search (Grouping MatchedRoute SearchResult ViewState)

/-- A store, the routes that are searched, and the view. -/
structure Session where
  store : Store
  searched : List Route
  grouping : Grouping
deriving Repr

structure Location where
  path : FilePath
  line : Nat
  column : Nat
deriving DecidableEq, Repr

def Location.encode (location : Location) : Json.Value :=
  .object [
    ("path", .string location.path.text),
    ("line", .natural location.line),
    ("column", .natural location.column)]

def FilePath.missingMessage (path : FilePath) : String := s!"file no longer exists: {path.text}"

namespace Session

def ofStore (store : Store) : Session :=
  ⟨store, store.snapshot.routes, .ofControllers store.snapshot.controllers⟩

/-- Scan the workspace again. The answer is whether the identities of the routes changed. -/
def refresh (session : Session) (disk : Disk) : Bool × Session :=
  let (changed, store) := session.store.refresh disk
  (changed, {
    store
    searched := store.snapshot.routes
    grouping := session.grouping.updateControllers store.snapshot.controllers })

def ofRoots (disk : Disk) (roots : List FilePath) (config : Config) : Except PatternError Session := do
  let index ← FileIndex.ofConfig disk roots config
  .ok ((ofStore (.ofIndex index)).refresh disk).2

def index (session : Session) : FileIndex := session.store.index

def withIndex (session : Session) (index : FileIndex) : Session :=
  { session with store := { session.store with index := index } }

def withOverlay (session : Session) (overlay : Overlay) : Session :=
  session.withIndex { session.index with overlay := overlay }

def isEligible (session : Session) (path : FilePath) : Bool := session.index.isEligible path

def invalidate (session : Session) (path : FilePath) : Session :=
  session.withIndex (session.index.invalidate path)

def dispose (session : Session) : Session := session.withIndex session.index.dispose

/-- Take over the patterns of a configuration and forget what is known of all files. Patterns with a
flaw change nothing. -/
def applyConfig (session : Session) (config : Config) : Except PatternError Session := do
  let index ← session.index.setPatterns config
  .ok (session.withIndex index.dispose)

def searchFlat (session : Session) (query : String) : List MatchedRoute × Session :=
  (Search.search session.searched query, { session with grouping := session.grouping.setQuery query })

def searchGrouped (session : Session) (query : String) : SearchResult × Session :=
  let grouping := (session.grouping.setQuery query).sync
  let result :=
    if Text.isAllBlank query then grouping.initialResult
    else grouping.result (Search.search session.searched query) query
  (result, { session with grouping := grouping })

def toggleOwner (session : Session) (owner : String) : Session :=
  { session with grouping := session.grouping.toggleOwner owner }

def toggleDisplayMode (session : Session) : Session :=
  { session with grouping := session.grouping.toggleDisplayMode }

def view (session : Session) : ViewState := session.grouping.view

def locateFile? (disk : Disk) (path : FilePath) : Option Location :=
  if disk.isFile path then some ⟨path, 1, 0⟩ else none

/-- The handler of a route, if its file is there. -/
def locateRoute? (disk : Disk) (route : Route) : Option Location :=
  if disk.isFile route.sourceFile then some ⟨route.sourceFile, route.line, route.column⟩ else none

end Session

end RouteExplorer
