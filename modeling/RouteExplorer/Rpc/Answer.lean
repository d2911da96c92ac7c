import RouteExplorer.Rpc.Request
import RouteExplorer.Text.Uppercase

namespace RouteExplorer.Rpc

open Json (Value)
open Search (MatchedRoute)

/-- What works on a session in place and may fail. A failure does not undo what was done before it. -/
abbrev Handler := ExceptT RequestError (StateM Session)

def Handler.on {α : Type} (handler : Handler α) (session : Session) : Except RequestError α × Session :=
  handler session

/-- What comes of a handler together with the session behind it, unless it fails. -/
def Handler.outcome {α : Type} (handler : Handler α) (session : Session) : Except RequestError (α × Session) :=
  match handler.on session with
  | (.ok value, next) => .ok (value, next)
  | (.error error, _) => .error error

/-- The path that a client means: a relative one starts at the first root, and a path that leads
somewhere is taken without detours. -/
def resolvePath (disk : Disk) (session : Session) (path : FilePath) : FilePath :=
  let absolute := match session.index.roots with
    | root :: _ => root.join path
    | [] => path
  disk.canonical absolute

/-- The route of a method, in whatever case, and a path. -/
def findRoute (session : Session) (httpMethod fullPath : String) : Except RequestError Route :=
  let wanted := Text.uppercase httpMethod
  match session.store.snapshot.routes.find? fun route =>
    route.httpMethod == wanted && route.fullPath == fullPath with
  | some route => .ok route
  | none => .error (.unknownRoute wanted fullPath)

private def located (path : FilePath) (found : Option Location) : Except RequestError Value :=
  match found with
  | some location => .ok location.encode
  | none => .error (.missingFile path)

private def report (disk : Disk) (event : ChangeEvent) : Handler Value := do
  let refreshed ← modifyGet fun session => session.apply disk event
  pure (.object [("refreshed", .bool refreshed)])

private def edit (disk : Disk) (given : FilePath) (change : Overlay → FilePath → Overlay) : Handler Value := do
  let path := resolvePath disk (← get) given
  modify fun session => session.withOverlay (change session.index.overlay path)
  report disk (.saved path)

def Request.perform (disk : Disk) : Request → Handler Value
  | .listMethods => pure (.strings methodNames)
  | .search query => do
    let result ← modifyGet fun session => session.searchGrouped query
    pure result.encode
  | .searchFlat query => do
    let matched ← modifyGet fun session => session.searchFlat query
    pure (.array (matched.map MatchedRoute.encode))
  | .viewState => do
    pure (← get).view.encode
  | .toggleOwner owner => do
    modify fun session => session.toggleOwner owner
    pure (← get).view.encode
  | .toggleDisplayMode => do
    modify Session.toggleDisplayMode
    pure (← get).view.encode
  | .refresh => do
    let changed ← modifyGet fun session => session.refresh disk
    pure (.object [
      ("changed", .bool changed),
      ("totalEndpoints", .natural (← get).store.snapshot.routes.length)])
  | .routes => do
    pure (.array ((← get).store.snapshot.routes.map Route.encode))
  | .controllers => do
    pure (.array ((← get).store.snapshot.controllers.map Controller.encode))
  | .locateRoute httpMethod fullPath => do
    let route ← findRoute (← get) httpMethod fullPath
    located route.sourceFile (Session.locateRoute? disk route)
  | .locateFile given => do
    let path := resolvePath disk (← get) given
    located path (Session.locateFile? disk path)
  | .bufferOpen given text version =>
    edit disk given fun overlay path => overlay.openBuffer path text version
  | .bufferUpdate given text version =>
    edit disk given fun overlay path => overlay.updateBuffer path text version
  | .bufferClose given => edit disk given Overlay.closeBuffer
  | .fileEvent change given => do
    let path := resolvePath disk (← get) given
    report disk (change.event path)

/-- Handle a method with parameters. The fields of the answer are ordered by key. -/
def perform (disk : Disk) (method : String) (parameters : Value) : Handler Value := do
  let request ← Request.decode method parameters
  let value ← request.perform disk
  pure value.ordered

def answer (disk : Disk) (session : Session) (request : Request) : Except RequestError (Value × Session) :=
  (request.perform disk).outcome session

def handle (disk : Disk) (session : Session) (method : String) (parameters : Value) :
    Except RequestError (Value × Session) :=
  (perform disk method parameters).outcome session

end RouteExplorer.Rpc
