import RouteExplorer.Config
import RouteExplorer.Index.Scan
import RouteExplorer.Route.Extraction
import RouteExplorer.Workspace.Overlay

/-!
The controllers of a workspace by file. A controller is read once and kept until its file is
invalidated; a file without a controller is read again each time.
-/
namespace RouteExplorer

open Glob (PatternSet PatternError)

/-- The roots of a workspace, the patterns of its files, the buffers over them and the controllers
that are known. -/
structure FileIndex where
  roots : List FilePath
  patterns : PatternSet
  overlay : Overlay
  cache : PathMap Controller
deriving Repr

namespace FileIndex

def patternsOf (config : Config) : Except PatternError PatternSet :=
  PatternSet.parse config.filePatterns config.excludePatterns

def ofConfig (disk : Disk) (roots : List FilePath) (config : Config) : Except PatternError FileIndex := do
  let patterns ← patternsOf config
  .ok ⟨roots.map disk.canonical, patterns, .empty, .empty⟩

/-- Replace the patterns; patterns with a flaw change nothing. -/
def setPatterns (index : FileIndex) (config : Config) : Except PatternError FileIndex := do
  let patterns ← patternsOf config
  .ok { index with patterns := patterns }

def isEligible (index : FileIndex) (path : FilePath) : Bool :=
  RouteExplorer.isEligible index.roots index.patterns path

def invalidate (index : FileIndex) (path : FilePath) : FileIndex :=
  { index with cache := index.cache.erase path }

def dispose (index : FileIndex) : FileIndex := { index with cache := .empty }

def parse? (index : FileIndex) (disk : Disk) (path : FilePath) : Option Controller :=
  (index.overlay.read? disk path).bind (Controller.ofText? path)

def reload (index : FileIndex) (disk : Disk) (path : FilePath) : Option Controller × FileIndex :=
  let cleared := index.invalidate path
  match index.parse? disk path with
  | some controller => (some controller, { cleared with cache := cleared.cache.insert path controller })
  | none => (none, cleared)

/-- The controller of a file: the known one, unless a fresh one is asked for. -/
def controller? (index : FileIndex) (disk : Disk) (path : FilePath) (fresh : Bool) :
    Option Controller × FileIndex :=
  match (if fresh then none else index.cache.get? path) with
  | some controller => (some controller, index)
  | none => index.reload disk path

def controllersOf (disk : Disk) : FileIndex → List FilePath → List Controller × FileIndex
  | index, [] => ([], index)
  | index, path :: rest =>
    let (found, next) := index.controller? disk path false
    let (others, last) := controllersOf disk next rest
    (found.toList ++ others, last)

def scan (index : FileIndex) (disk : Disk) : Snapshot × FileIndex :=
  let (controllers, next) := index.controllersOf disk (scanRoots disk index.patterns index.roots)
  (.ofControllers controllers, next)

end FileIndex

end RouteExplorer
