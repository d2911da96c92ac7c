import RouteExplorer.Proofs.Rpc.Transcript

namespace RouteExplorer.Rpc

open Search (Choice Gesture)

theorem gesture?_of_looks {request : Request} (looks : request.looks = true) : request.gesture? = none := by
  cases request with
  | search | searchFlat | toggleOwner | toggleDisplayMode => cases looks
  | _ => rfl

/-- The gesture of a request as it comes; parameters that do not decode are none. -/
def Envelope.gesture? (envelope : Envelope) : Option Gesture :=
  (Request.decode envelope.method envelope.parameters).toOption.bind Request.gesture?

/-- What is refused is no gesture, whatever method it names. -/
theorem Envelope.gesture?_of_refused {disk : Disk} {session : Session} {envelope : Envelope}
    {error : RequestError}
    (refused : ((perform disk envelope.method envelope.parameters).on session).1 = .error error) :
    envelope.gesture? = none := by
  unfold Envelope.gesture?
  rcases perform_cases disk session envelope.method envelope.parameters with
    ⟨_, _, _, _, _, performs⟩ | ⟨_, _, looks⟩
  · rw [performs] at refused
    cases refused
  · cases decodes : Request.decode envelope.method envelope.parameters with
    | error _ => rfl
    | ok request => exact gesture?_of_looks (looks request decodes)

def Message.gesture? : Message → Option Gesture
  | .line text =>
    if Text.isAllBlank text then none else (Envelope.parse text).toOption.bind Envelope.gesture?
  | .changes _ | .inputClosed => none

/-- The gestures among the messages before the client is done. -/
def gestures : List Turn → List Gesture
  | [] => []
  | turn :: rest => if turn.message = .inputClosed then [] else turn.message.gesture?.toList ++ gestures rest

namespace Server

theorem choice_notify (server : Server) : server.notify.2.session.choice = server.session.choice := by
  unfold notify
  dsimp only
  split <;> rfl

theorem choice_respond (server : Server) (disk : Disk) (envelope : Envelope) :
    (server.respond disk envelope).2.session.choice =
      envelope.gesture?.elim server.session.choice server.session.choice.after := by
  unfold respond
  rcases perform_cases disk server.session envelope.method envelope.parameters with
    ⟨request, value, next, decodes, answers, performs⟩ | ⟨error, performs, _⟩
  · rw [performs, Envelope.gesture?, decodes]
    exact (effect_of_answer answers).choice
  · rw [performs, Envelope.gesture?_of_refused (congrArg Prod.fst performs)]
    rfl

theorem choice_reply (server : Server) (disk : Disk) (message : Message) :
    (server.reply disk message).2.session.choice =
      message.gesture?.elim server.session.choice server.session.choice.after := by
  cases message with
  | line text =>
    rw [reply, Message.gesture?]
    split
    · rfl
    · unfold respondToLine
      cases Envelope.parse text with
      | error fault => rfl
      | ok envelope => exact server.choice_respond disk envelope
  | changes events => exact server.session.choice_applyBatch disk events
  | inputClosed => rfl

/-- A message moves the view by its gesture only, also when changes are told behind it. -/
theorem choice_handleMessage (server : Server) (disk : Disk) (message : Message) :
    (server.handleMessage disk message).2.session.choice =
      message.gesture?.elim server.session.choice server.session.choice.after := by
  rw [← server.choice_reply disk message]
  cases message with
  | line text =>
    rw [handleMessage, reply]
    split
    · rfl
    · exact choice_notify _
  | changes events => exact choice_notify _
  | inputClosed => rfl

/-- Behind all messages the user's choice is that of the gestures among them, in their order. -/
theorem choice_serve (server : Server) (turns : List Turn) :
    (server.serve turns).2.session.choice = (gestures turns).foldl Choice.after server.session.choice := by
  induction turns generalizing server with
  | nil => rfl
  | cons turn rest ih =>
    unfold serve gestures
    split
    · rfl
    · rw [List.foldl_append]
      refine (ih (server.handleMessage turn.disk turn.message).2).trans ?_
      rw [choice_handleMessage]
      cases turn.message.gesture? <;> rfl

/-- Only gestures move the view. Messages without one, requests that are refused and lines that tell of
changes leave the display mode, the query, the focus and the expansion of every name, so that behind a run
these are what its gestures make of them, and the same behind two runs with the same gestures, whatever else
each of the two is told. -/
theorem choice_of_gestures :
    (∀ (server : Server) (disk : Disk) (message : Message), message.gesture? = none →
        (server.handleMessage disk message).2.session.choice = server.session.choice) ∧
      (∀ (server : Server) (disk : Disk) (envelope : Envelope) (error : RequestError),
        ((perform disk envelope.method envelope.parameters).on server.session).1 = .error error →
          (server.respond disk envelope).2.session.choice = server.session.choice) ∧
      (∀ server : Server, server.notify.2.session.choice = server.session.choice) ∧
      (∀ (server : Server) (turns : List Turn),
        (server.serve turns).2.session.choice = (gestures turns).foldl Choice.after server.session.choice) ∧
      ∀ (first second : Server) (turns others : List Turn),
        first.session.choice = second.session.choice → gestures turns = gestures others →
          (first.serve turns).2.session.choice = (second.serve others).2.session.choice := by
  refine ⟨?_, ?_, choice_notify, choice_serve, ?_⟩
  · intro server disk message quiet
    rw [choice_handleMessage, quiet]
    rfl
  · intro server disk envelope error refused
    rw [choice_respond, Envelope.gesture?_of_refused refused]
    rfl
  · intro first second turns others agree same
    rw [choice_serve, choice_serve, agree, same]

open Explorer (controllerText diskOf overDirectories)

/-- A search and a toggle around a request that is refused, with a change that is told behind them. -/
def toldTurns : List Turn :=
  [⟨diskOf oneRoute, .line "[1,\"search\",\x7b\"query\":\"ca\"\x7d]"⟩,
    ⟨diskOf oneRoute, .line "[2,\"toggle_owner\"]"⟩,
    ⟨diskOf oneRoute, .line "[3,\"toggle_owner\",\x7b\"owner\":\"Cats\"\x7d]"⟩,
    ⟨diskOf twoRoutes, .changes [.saved ⟨"/w/a.ts"⟩]⟩]

/-- The same search and toggle around an edit of a buffer, with a refresh behind them. -/
def editingTurns : List Turn :=
  [⟨diskOf oneRoute, .line "[1,\"search_flat\",\x7b\"query\":\"ca\"\x7d]"⟩,
    ⟨diskOf oneRoute, .line "[2,\"buffer_open\",\x7b\"path\":\"a.ts\",\"text\":\"\"\x7d]"⟩,
    ⟨diskOf oneRoute, .line "[3,\"toggle_owner\",\x7b\"name\":\"Cats\"\x7d]"⟩,
    ⟨diskOf twoRoutes, .line "[4,\"refresh\"]"⟩,
    ⟨diskOf twoRoutes, .inputClosed⟩,
    ⟨diskOf twoRoutes, .line "[5,\"toggle_display_mode\"]"⟩]

theorem choice_of_told_and_editing :
    let told := ofSession catsExplorer.session
    let editing := ofSession (overDirectories oneRoute).session
    let change := Message.changes [.saved ⟨"/w/a.ts"⟩]
    let refused : Envelope := ⟨.null, "toggle_owner", .null⟩
    change.gesture? = none ∧
      (told.handleMessage (diskOf twoRoutes) change).2.session.choice = told.session.choice ∧
      ((perform (diskOf oneRoute) refused.method refused.parameters).on told.session).1 =
        .error .invalidParameters ∧
      (told.respond (diskOf oneRoute) refused).2.session.choice = told.session.choice ∧
      told.session.choice = editing.session.choice ∧
      gestures toldTurns = [.search "ca", .toggleOwner "Cats"] ∧ gestures toldTurns = gestures editingTurns ∧
      (told.serve toldTurns).2.session.choice = (editing.serve editingTurns).2.session.choice := by
  intro told editing change refused
  obtain ⟨silent, unmoved, _, _, agreeing⟩ := choice_of_gestures
  have quiet : change.gesture? = none := rfl
  have decodes : Request.decode refused.method refused.parameters = .error .invalidParameters := by decide
  have fails : ((perform (diskOf oneRoute) refused.method refused.parameters).on told.session).1 =
      .error .invalidParameters := by
    rw [perform_eq, decodes]
  have agree : told.session.choice = editing.session.choice := rfl
  have moved : gestures toldTurns = [.search "ca", .toggleOwner "Cats"] := by decide +kernel
  have same : gestures toldTurns = gestures editingTurns := by decide +kernel
  exact ⟨quiet, silent told _ change quiet, fails, unmoved told _ refused _ fails, agree, moved, same,
    agreeing told editing _ _ agree same⟩

end Server

end RouteExplorer.Rpc
