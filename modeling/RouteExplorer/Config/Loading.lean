import RouteExplorer.Config.Fields
import RouteExplorer.Text.Blank
import RouteExplorer.Workspace.Disk

namespace RouteExplorer

inductive ConfigFormat where
  | yaml
  | json
deriving DecidableEq, Repr

def ConfigFormat.ofPath? (path : FilePath) : Option ConfigFormat :=
  match path.extension? with
  | some "yaml" | some "yml" => some .yaml
  | some "json" => some .json
  | _ => none

def ConfigFormat.read? : ConfigFormat → String → Option Config
  | .yaml, text => Config.ofYaml? text
  | .json, text => Config.ofJson? text

inductive ConfigError where
  | unreadable (path : FilePath)
  | unsupported (path : FilePath)
  | malformed (path : FilePath)
deriving DecidableEq, Repr

def ConfigError.message : ConfigError → String
  | .unreadable path => path.unreadableMessage
  | .unsupported path => s!"unsupported config format: {path.text}"
  | .malformed path => s!"parse config {path.text}"

namespace Config

/-- The configuration in a file. That the file can be read comes first, then its format. -/
def ofFile (disk : Disk) (path : FilePath) : Except ConfigError Config :=
  match disk.read? path with
  | none => .error (.unreadable path)
  | some text =>
    match ConfigFormat.ofPath? path with
    | none => .error (.unsupported path)
    | some format =>
      match format.read? text with
      | some config => .ok config
      | none => .error (.malformed path)

/-- The names of the configuration of a root; earlier ones win. -/
def fileNames : List String := ["routescope.yaml", "routescope.yml", "routescope.json"]

def candidates (root : FilePath) : List FilePath := fileNames.map fun name => root.join ⟨name⟩

def discover? (disk : Disk) (root : FilePath) : Option FilePath := (candidates root).find? disk.isFile

end Config

/-- The variables that override the configuration; one that is not set is none. -/
structure Environment where
  filePatterns : Option String
  excludePatterns : Option String
  watchDebounceMs : Option String
deriving DecidableEq, Repr

def Environment.empty : Environment := ⟨none, none, none⟩

/-- The patterns in a text, with commas between them. Blanks around a pattern do not count, and
neither do empty ones. -/
def splitPatterns (text : String) : List String :=
  ((Text.split ',' text).map Text.trim).filter fun pattern => !pattern.isEmpty

/-- A configuration after the environment had its say. A time that is no number changes nothing. -/
def Config.override (config : Config) (environment : Environment) : Config :=
  { filePatterns := (environment.filePatterns.map splitPatterns).getD config.filePatterns
    excludePatterns := (environment.excludePatterns.map splitPatterns).getD config.excludePatterns
    watchDebounceMs :=
      (environment.watchDebounceMs.bind Number.Unsigned.ofText?).getD config.watchDebounceMs }

def Config.load (disk : Disk) (environment : Environment) (root : FilePath)
    (explicit : Option FilePath) : Except ConfigError Config := do
  let config ← match explicit.or (Config.discover? disk root) with
    | some path => Config.ofFile disk path
    | none => .ok .default
  return config.override environment

end RouteExplorer
