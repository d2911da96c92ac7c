import RouteExplorer.Change.Event
import RouteExplorer.Json.Decode

namespace RouteExplorer.Rpc

open Json (Value Slots)

inductive FileChange where
  | created | deleted | saved
deriving DecidableEq, Repr

namespace FileChange

def ofName? : String → Option FileChange
  | "created" => some .created
  | "deleted" => some .deleted
  | "saved" => some .saved
  | _ => none

def event (change : FileChange) (path : FilePath) : ChangeEvent :=
  match change with
  | .created => .created path
  | .deleted => .deleted path
  | .saved => .saved path

end FileChange

inductive Request where
  | listMethods
  | search (query : String)
  | searchFlat (query : String)
  | viewState
  | toggleOwner (owner : String)
  | toggleDisplayMode
  | refresh
  | routes
  | controllers
  | locateRoute (httpMethod fullPath : String)
  | locateFile (path : FilePath)
  | bufferOpen (path : FilePath) (text : String) (version : Int)
  | bufferUpdate (path : FilePath) (text : String) (version : Int)
  | bufferClose (path : FilePath)
  | fileEvent (change : FileChange) (path : FilePath)
deriving DecidableEq, Repr

inductive RequestError where
  | unknownMethod (name : String)
  | invalidParameters
  | unknownRoute (httpMethod fullPath : String)
  | missingFile (path : FilePath)
deriving DecidableEq, Repr

def RequestError.message : RequestError → String
  | .unknownMethod name => s!"unknown method: {name}"
  | .invalidParameters => "invalid params"
  | .unknownRoute httpMethod fullPath => s!"unknown route: {httpMethod} {fullPath}"
  | .missingFile path => path.missingMessage

/-- The names of all methods, in the order in which they are told. -/
def methodNames : List String :=
  ["list_methods", "search", "search_flat", "view_state", "toggle_owner", "toggle_display_mode",
    "refresh", "routes", "controllers", "locate_route", "locate_file", "buffer_open", "buffer_update",
    "buffer_close", "file_event"]

private def path? (value : Value) : Option FilePath := value.string?.map FilePath.mk

def queryParameter? (parameters : Value) : Option String := do
  let slots ← Slots.ofValue? [["query"]] parameters
  slots.withDefault 0 "" Value.string?

def ownerParameter? (parameters : Value) : Option String := do
  let slots ← Slots.ofValue? [["owner", "name", "ownerName"]] parameters
  slots.required 0 Value.string?

def routeParameters? (parameters : Value) : Option (String × String) := do
  let slots ← Slots.ofValue? [["httpMethod", "method"], ["fullPath", "path"]] parameters
  let httpMethod ← slots.required 0 Value.string?
  let fullPath ← slots.required 1 Value.string?
  pure (httpMethod, fullPath)

def pathParameter? (parameters : Value) : Option FilePath := do
  let slots ← Slots.ofValue? [["path"]] parameters
  slots.required 0 path?

def bufferParameters? (parameters : Value) : Option (FilePath × String × Int) := do
  let slots ← Slots.ofValue? [["path"], ["text"], ["version"]] parameters
  let path ← slots.required 0 path?
  let text ← slots.required 1 Value.string?
  let version ← slots.withDefault 2 0 Value.integer?
  pure (path, text, version)

def changeParameters? (parameters : Value) : Option (FileChange × FilePath) := do
  let slots ← Slots.ofValue? [["kind"], ["path"]] parameters
  let change ← slots.required 0 fun kind => kind.caseName?.bind FileChange.ofName?
  let path ← slots.required 1 path?
  pure (change, path)

def decoded {α : Type} (found : Option α) (request : α → Request) : Except RequestError Request :=
  match found with
  | some parameters => .ok (request parameters)
  | none => .error .invalidParameters

/-- The request of a method with parameters. Parameters that are null count as an object without
fields. -/
def Request.decode (method : String) (given : Value) : Except RequestError Request :=
  let parameters := if given.isNull then .emptyObject else given
  match method with
  | "list_methods" => .ok .listMethods
  | "search" => decoded (queryParameter? parameters) .search
  | "search_flat" => decoded (queryParameter? parameters) .searchFlat
  | "view_state" => .ok .viewState
  | "toggle_owner" => decoded (ownerParameter? parameters) .toggleOwner
  | "toggle_display_mode" => .ok .toggleDisplayMode
  | "refresh" => .ok .refresh
  | "routes" => .ok .routes
  | "controllers" => .ok .controllers
  | "locate_route" => decoded (routeParameters? parameters) fun (httpMethod, fullPath) =>
      .locateRoute httpMethod fullPath
  | "locate_file" => decoded (pathParameter? parameters) .locateFile
  | "buffer_open" => decoded (bufferParameters? parameters) fun (path, text, version) =>
      .bufferOpen path text version
  | "buffer_update" => decoded (bufferParameters? parameters) fun (path, text, version) =>
      .bufferUpdate path text version
  | "buffer_close" => decoded (pathParameter? parameters) .bufferClose
  | "file_event" => decoded (changeParameters? parameters) fun (change, path) => .fileEvent change path
  | other => .error (.unknownMethod other)

end RouteExplorer.Rpc
