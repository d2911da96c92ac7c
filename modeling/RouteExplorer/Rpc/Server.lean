import RouteExplorer.Json.Printer
import RouteExplorer.Rpc.Answer
import RouteExplorer.Rpc.Envelope

namespace RouteExplorer.Rpc

open Json (Value)

/-- What the server is told: a line of the client, changes of the workspace, or that the client is
done. -/
inductive Message where
  | line (text : String)
  | changes (events : List ChangeEvent)
  | inputClosed
deriving DecidableEq, Repr

structure Server where
  session : Session
deriving Repr

def clientName : String := "client"

def resultResponse (id result : Value) : Value := .object [("id", id), ("result", result)]

def errorResponse (id : Value) (message : String) : Value :=
  .object [("id", id), ("error", .object [("message", .string message)])]

namespace Server

/-- A server for a session; changes before it are not told. -/
def ofSession (session : Session) : Server :=
  ⟨{ session with store := session.store.subscribe clientName }⟩

def respond (server : Server) (disk : Disk) (envelope : Envelope) : Value × Server :=
  match (perform disk envelope.method envelope.parameters).on server.session with
  | (.ok result, next) => (resultResponse envelope.id result, ⟨next⟩)
  | (.error error, next) => (errorResponse envelope.id error.message, ⟨next⟩)

def respondToLine (server : Server) (disk : Disk) (text : String) : Value × Server :=
  match Envelope.parse text with
  | .ok envelope => server.respond disk envelope
  | .error fault => (errorResponse .null s!"invalid request: {fault.message text.toList}", server)

/-- Tell the client the result of its last query if the routes changed since it was told last. -/
def notify (server : Server) : List Value × Server :=
  let (events, store) := server.session.store.receive clientName
  if events.isEmpty then ([], server)
  else
    let session := { server.session with store := store }
    let (result, next) := session.searchGrouped session.view.searchQuery
    let parameters := .object [("searchResult", result.encode), ("viewState", next.view.encode)]
    ([.object [("method", .string "routesChanged"), ("params", Value.ordered parameters)]], ⟨next⟩)

def handleMessage (server : Server) (disk : Disk) : Message → List Value × Server
  | .line text =>
    if Text.isAllBlank text then ([], server)
    else
      let (response, next) := server.respondToLine disk text
      let (notices, last) := next.notify
      (response :: notices, last)
  | .changes events =>
    let (_, session) := server.session.applyBatch disk events
    Server.notify ⟨session⟩
  | .inputClosed => ([], server)

def run (disk : Disk) : Server → List Message → List Value × Server
  | server, [] => ([], server)
  | server, .inputClosed :: _ => ([], server)
  | server, message :: rest =>
    let (lines, next) := server.handleMessage disk message
    let (others, last) := run disk next rest
    (lines ++ others, last)

end Server

/-- An identifier in a text: the JSON value of it, or the text itself. -/
def readId (text : String) : Value :=
  match Value.parse text with
  | .ok value => value
  | .error _ => .string text

/-- The response to one request whose parameters and identifier are texts; none where the parameters
are no JSON. -/
def call? (disk : Disk) (session : Session) (method parametersText idText : String) : Option String :=
  match Value.parse parametersText with
  | .error _ => none
  | .ok parameters =>
    some ((Server.ofSession session).respond disk ⟨readId idText, method, parameters⟩).1.compact

def unreadableParametersMessage : String := "parse params JSON"

end RouteExplorer.Rpc
