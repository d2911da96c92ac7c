import RouteExplorer.Proofs.Rpc.Serving

namespace RouteExplorer.Rpc

open Json (Value)

/-- A message, and the disk as it is when the message is handled. -/
structure Turn where
  disk : Disk
  message : Message

/-- A message that was handled, with what was written for it and the servers around it. -/
structure Exchange where
  before : Server
  turn : Turn
  lines : List Value
  after : Server

def requestId (text : String) : Value :=
  match Envelope.parse text with
  | .ok envelope => envelope.id
  | .error _ => .null

/-- What responds to a message: one line with the identifier of a request and with its result or its
error, and nothing for blank lines and for changes. -/
inductive Replies : Message → List Value → Prop where
  | blank {text : String} (blank : Text.isAllBlank text = true) : Replies (.line text) []
  | changes (events : List ChangeEvent) : Replies (.changes events) []
  | result {text : String} {result : Value} (filled : Text.isAllBlank text = false) :
    Replies (.line text) [.object [("id", requestId text), ("result", result)]]
  | error {text : String} {error : Value} (filled : Text.isAllBlank text = false) :
    Replies (.line text) [.object [("id", requestId text), ("error", error)]]

/-- The lines behind the response: one that tells of changed routes, if the endpoints changed. -/
inductive Notifies (before after : Server) : List Value → Prop where
  | quiet (same : before.endpoints = after.endpoints) : Notifies before after []
  | changed {parameters : Value} (different : before.endpoints ≠ after.endpoints) :
    Notifies before after [.object [("method", .string "routesChanged"), ("params", parameters)]]

/-- The lines of an exchange are the response and then the notice. -/
def Exchange.Proper (exchange : Exchange) : Prop :=
  ∃ responses notices, exchange.lines = responses ++ notices ∧
    Replies exchange.turn.message responses ∧ Notifies exchange.before exchange.after notices

namespace Server

/-- Handle messages, each over the disk of its time, until the client is done. -/
def serve : Server → List Turn → List Value × Server
  | server, [] => ([], server)
  | server, turn :: rest =>
    if turn.message = .inputClosed then ([], server)
    else
      let (lines, next) := server.handleMessage turn.disk turn.message
      let (others, last) := next.serve rest
      (lines ++ others, last)

def exchanges : Server → List Turn → List Exchange
  | _, [] => []
  | server, turn :: rest =>
    if turn.message = .inputClosed then []
    else
      let (lines, next) := server.handleMessage turn.disk turn.message
      ⟨server, turn, lines, next⟩ :: next.exchanges rest

variable {server : Server} {disk : Disk}

theorem replies (server : Server) (disk : Disk) {message : Message} (opens : message ≠ .inputClosed) :
    Replies message (server.reply disk message).1 := by
  cases message with
  | line text =>
    rw [reply]
    split
    · next blank => exact .blank blank
    · next filled =>
      have filled : Text.isAllBlank text = false := by simpa using filled
      unfold respondToLine
      cases read : Envelope.parse text with
      | error fault =>
        have id : requestId text = .null := by simp [requestId, read]
        exact id ▸ .error filled
      | ok envelope =>
        have id : requestId text = envelope.id := by simp [requestId, read]
        rcases server.respond_cases disk envelope with ⟨_, _, _, _, _, responds⟩ | ⟨_, responds⟩
        · simp only [responds]
          exact id ▸ .result filled
        · simp only [responds]
          exact id ▸ .error filled
  | changes events => exact .changes events
  | inputClosed => exact absurd rfl opens

theorem Ready.notifies (ready : server.Ready) (disk : Disk) (message : Message) :
    Notifies server (server.reply disk message).2.notify.2 (server.reply disk message).2.notify.1 := by
  obtain ⟨_, _, events, follows, unchanged⟩ := ready.advance (server.reply_advances disk message)
  by_cases waiting : events = []
  · have same := unchanged.mp waiting
    subst waiting
    rw [notify_of_nothing follows]
    exact .quiet same
  · obtain ⟨told, idle, _, _, notifies⟩ := notify_of_waiting follows waiting
    rw [notifies]
    refine .changed fun same => waiting (unchanged.mpr ?_)
    rw [same, endpoints]
    exact congrArg Snapshot.endpoints idle.snapshot

theorem Ready.exchange_proper (ready : server.Ready) {turn : Turn} (opens : turn.message ≠ .inputClosed) :
    Exchange.Proper ⟨server, turn, (server.handleMessage turn.disk turn.message).1,
      (server.handleMessage turn.disk turn.message).2⟩ := by
  rw [ready.handleMessage_eq turn.disk opens]
  exact ⟨_, _, rfl, server.replies turn.disk opens, ready.notifies turn.disk turn.message⟩

theorem Ready.serve (ready : server.Ready) (turns : List Turn) : (server.serve turns).2.Ready := by
  induction turns generalizing server with
  | nil => exact ready
  | cons turn rest ih =>
    by_cases closed : turn.message = .inputClosed
    · rw [Server.serve, if_pos closed]
      exact ready
    · rw [Server.serve, if_neg closed]
      exact ih (ready.handleMessage turn.disk turn.message)

/-- Whatever is exchanged with a server that is ready is proper. -/
theorem Ready.proper (ready : server.Ready) (turns : List Turn) :
    ∀ exchange ∈ server.exchanges turns, exchange.Proper := by
  induction turns generalizing server with
  | nil => simp [exchanges]
  | cons turn rest ih =>
    by_cases closed : turn.message = .inputClosed
    · simp [exchanges, closed]
    · intro exchange member
      rw [exchanges, if_neg closed] at member
      rcases List.mem_cons.mp member with rfl | later
      · exact ready.exchange_proper closed
      · exact ih (ready.handleMessage turn.disk turn.message) exchange later

open Explorer (controllerText diskOf overDirectories fresh_overDirectories)

def oneRoute : List (String × String) := [("w", controllerText "Cats" "@Get()a()\x7b\x7d")]

def twoRoutes : List (String × String) :=
  [("w", controllerText "Cats" "@Get()a()\x7b\x7d@Post()b()\x7b\x7d")]

def catsExplorer : Explorer := (overDirectories oneRoute).step .refresh

theorem reached_catsExplorer : catsExplorer.Reached :=
  ⟨overDirectories oneRoute, [.refresh], fresh_overDirectories (by decide), rfl⟩

def catsTurns : List Turn :=
  [⟨diskOf oneRoute, .line "[1,\"search\"]"⟩, ⟨diskOf twoRoutes, .changes [.saved ⟨"/w/a.ts"⟩]⟩,
    ⟨diskOf twoRoutes, .inputClosed⟩, ⟨diskOf twoRoutes, .line "[2,\"search\"]"⟩]

/-- The response and one notice. -/
example : ((ofSession catsExplorer.session).serve catsTurns).1.length = 2 := by decide +kernel

end Server

end RouteExplorer.Rpc
