import RouteExplorer.Change.Event
import RouteExplorer.Config.Loading

namespace RouteExplorer

structure ConfigSource where
  root : FilePath
  explicit : Option FilePath
deriving DecidableEq, Repr

namespace ConfigSource

/-- A source with the absolute path of the file that is named, as far as there is such a file. -/
def ofPaths (disk : Disk) (root : FilePath) (explicit : Option FilePath) : ConfigSource :=
  ⟨root, explicit.map disk.canonical⟩

def paths (source : ConfigSource) : List FilePath :=
  match source.explicit with
  | some path => [path]
  | none => Config.candidates source.root

def contains (source : ConfigSource) (path : FilePath) : Bool :=
  source.paths.any fun candidate => candidate.same path

def load (source : ConfigSource) (disk : Disk) (environment : Environment) :
    Except ConfigError Config :=
  Config.load disk environment source.root source.explicit

end ConfigSource

inductive FileEventKind where
  | created
  | removed
  | renamedFrom
  | renamedTo
  /-- The first file became the others. -/
  | renamedBoth
  /-- Renamed in a direction that is not known. -/
  | renamed
  | modified
  | attributesModified
  | other
deriving DecidableEq, Repr

structure FileEvent where
  kind : FileEventKind
  paths : List FilePath
deriving DecidableEq, Repr

namespace FileEvent

def fileChanges (event : FileEvent) (disk : Disk) : List ChangeEvent :=
  match event.kind with
  | .created | .renamedTo => event.paths.map .created
  | .removed | .renamedFrom => event.paths.map .deleted
  | .renamedBoth =>
    match event.paths with
    | [] => []
    | source :: targets => .deleted source :: targets.map .created
  | .renamed => event.paths.map fun path =>
    if disk.pathExists path then .created path else .deleted path
  | .modified => event.paths.map .saved
  | .attributesModified | .other => []

/-- The changes that an event means. A configuration that cannot be loaded changes nothing. -/
def changes (event : FileEvent) (disk : Disk) (environment : Environment) (source : ConfigSource) :
    List ChangeEvent :=
  if event.paths.any source.contains then
    match source.load disk environment with
    | .ok config => [.configured config]
    | .error _ => []
  else event.fileChanges disk

end FileEvent

end RouteExplorer
