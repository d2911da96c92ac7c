import RouteExplorer.Proofs.Index.Subscription
import RouteExplorer.Proofs.Rpc.Effect
import RouteExplorer.Proofs.Search.Endpoints
import RouteExplorer.Rpc.Server

/-!
What one message does to a server. A request or a batch refreshes the store once at most, so that one
event at most waits for the client behind it, and one does exactly when the endpoints changed.
-/
namespace RouteExplorer

namespace Session

/-- A session stays idle and keeps its subscribers, and is refreshed once at most after that. -/
inductive Advances (disk : Disk) (before : Session) : Session → Prop where
  | stays {after : Session} (idle : before.Idle after)
    (followed : after.store.subscribers = before.store.subscribers) : Advances disk before after
  | refreshes {middle : Session} (idle : before.Idle middle)
    (followed : middle.store.subscribers = before.store.subscribers) :
    Advances disk before (middle.refresh disk).2

variable {session : Session} {disk : Disk}

theorem Idle.trans {first second third : Session} (left : first.Idle second) (right : second.Idle third) :
    first.Idle third where
  snapshot := right.snapshot.trans left.snapshot
  searched := right.searched.trans left.searched
  controllers := right.controllers.trans left.controllers
  known path known found := left.known path known (right.known path known found)

theorem absorbed_subscribers (session : Session) (events : List ChangeEvent) :
    (session.absorbed events).store.subscribers = session.store.subscribers := by
  obtain ⟨_, frame⟩ := session.absorbed_frame events
  rw [frame]
  rfl

/-- A batch advances a session, also when something idle came before it. -/
theorem advances_applyBatch {before : Session} (idle : before.Idle session)
    (followed : session.store.subscribers = before.store.subscribers) (disk : Disk)
    (events : List ChangeEvent) : before.Advances disk (session.applyBatch disk events).2 := by
  have absorbed_idle := idle.trans (session.idle_absorbed events)
  have absorbed_followed := (session.absorbed_subscribers events).trans followed
  rw [applyBatch_eq]
  split
  · exact .refreshes absorbed_idle absorbed_followed
  · exact .stays absorbed_idle absorbed_followed

theorem query_applyBatch (session : Session) (disk : Disk) (events : List ChangeEvent) :
    (session.applyBatch disk events).2.query = session.query :=
  congrArg Search.Choice.query (session.choice_applyBatch disk events)

theorem Consistent.methods (consistent : session.Consistent)
    (verbs : session.HoldsOnly Controller.HasVerbs) :
    ∀ route ∈ session.store.snapshot.routes, ∃ verb : Verb, route.httpMethod = verb.text := by
  intro route member
  rw [consistent.whole] at member
  obtain ⟨controller, shown, owned⟩ := List.mem_flatMap.mp member
  exact verbs.shown controller shown route owned

end Session

namespace Rpc

/-- An answered request advances the session, and only searches set the query. -/
theorem answer_advances {disk : Disk} {session next : Session} {request : Request} {value : Json.Value}
    (answers : answer disk session request = .ok (value, next)) :
    session.Advances disk next ∧ next.query = request.query?.getD session.query := by
  have effect := effect_of_answer answers
  refine ⟨?_, (congrArg Search.Choice.query effect.choice).trans (request.query_of_gesture session.choice)⟩
  cases effect with
  | views grouping known _ _ => exact .stays ⟨rfl, rfl, known, fun _ _ found => found⟩ rfl
  | refreshes => exact .refreshes (.refl _) rfl
  | reports change given => exact Session.advances_applyBatch (.refl _) rfl disk _
  | @edits _ edit overlay _ _ _ =>
    have idle : session.Idle (session.withOverlay overlay) := ⟨rfl, rfl, rfl, fun _ _ found => found⟩
    exact Session.advances_applyBatch idle rfl disk _

namespace Server

open Json (Value)
open Search (SearchResult ViewState)

/-- What the client is told when the routes changed. -/
def routesChanged (result : SearchResult) (view : ViewState) : Value :=
  .object [("method", .string "routesChanged"),
    ("params", Value.ordered (.object [("searchResult", result.encode), ("viewState", view.encode)]))]

def endpoints (server : Server) : List (String × String) := server.session.store.snapshot.endpoints

/-- The response to a message, if it gets one, and the server behind it, before the client is told of
changes. -/
def reply (server : Server) (disk : Disk) : Message → List Value × Server
  | .line text =>
    if Text.isAllBlank text then ([], server)
    else ([(server.respondToLine disk text).1], (server.respondToLine disk text).2)
  | .changes events => ([], ⟨(server.session.applyBatch disk events).2⟩)
  | .inputClosed => ([], server)

/-- What a server is between two messages: consistent, over extracted controllers only, and with
nothing that waits for the client. -/
structure Ready (server : Server) : Prop where
  consistent : server.session.Consistent
  verbs : server.session.HoldsOnly Controller.HasVerbs
  drained : server.session.store.Follows clientName []

variable {server : Server} {disk : Disk}

theorem ready_ofSession {explorer : Explorer} (reached : explorer.Reached) :
    (ofSession explorer.session).Ready := by
  have idle : explorer.session.Idle (ofSession explorer.session).session :=
    ⟨rfl, rfl, rfl, fun _ _ found => found⟩
  have verbs : explorer.session.HoldsOnly Controller.HasVerbs :=
    reached.holdsOnly fun _ _ _ => Controller.hasVerbs_of_ofText?
  exact ⟨reached.consistent.idle idle, verbs.idle idle, Store.follows_subscribe _ _⟩

theorem respond_cases (server : Server) (disk : Disk) (envelope : Envelope) :
    (∃ request value next, Request.decode envelope.method envelope.parameters = .ok request ∧
        answer disk server.session request = .ok (value, next) ∧
        server.respond disk envelope = (resultResponse envelope.id value.ordered, ⟨next⟩)) ∨
      ∃ message, server.respond disk envelope = (errorResponse envelope.id message, server) := by
  unfold respond
  rcases perform_cases disk server.session envelope.method envelope.parameters with
    ⟨request, value, next, decodes, answers, performs⟩ | ⟨error, performs, _⟩
  · rw [performs]
    exact .inl ⟨request, value, next, decodes, answers, rfl⟩
  · rw [performs]
    exact .inr ⟨error.message, rfl⟩

theorem respondToLine_advances (server : Server) (disk : Disk) (text : String) :
    server.session.Advances disk (server.respondToLine disk text).2.session := by
  unfold respondToLine
  cases Envelope.parse text with
  | error fault => exact .stays (.refl _) rfl
  | ok envelope =>
    rcases server.respond_cases disk envelope with ⟨_, _, next, _, answers, responds⟩ | ⟨_, responds⟩
    · simp only [responds]
      exact (answer_advances answers).1
    · simp only [responds]
      exact .stays (.refl _) rfl

theorem reply_advances (server : Server) (disk : Disk) (message : Message) :
    server.session.Advances disk (server.reply disk message).2.session := by
  cases message with
  | line text =>
    rw [reply]
    split
    · exact .stays (.refl _) rfl
    · exact server.respondToLine_advances disk text
  | changes events => exact Session.advances_applyBatch (.refl _) rfl disk events
  | inputClosed => exact .stays (.refl _) rfl

theorem notify_of_nothing (drained : server.session.store.Follows clientName []) :
    server.notify = ([], server) := by
  have received : (server.session.store.receive clientName).1 = [] := drained.waiting
  simp [notify, received]

/-- Whatever waits for the client becomes one line with the result of the current query. -/
theorem notify_of_waiting {events : List (List Route)}
    (follows : server.session.store.Follows clientName events) (waiting : events ≠ []) :
    ∃ told : Session, server.session.Idle told ∧ told.query = server.session.query ∧
      told.store.Follows clientName [] ∧
      server.notify = ([routesChanged (told.searchGrouped told.query).1 (told.searchGrouped told.query).2.view],
        ⟨(told.searchGrouped told.query).2⟩) := by
  have received : (server.session.store.receive clientName).1 = events := follows.waiting
  have drained := follows.receive clientName
  rw [if_pos rfl] at drained
  refine ⟨{ server.session with store := (server.session.store.receive clientName).2 },
    ⟨rfl, rfl, rfl, fun _ _ found => found⟩, rfl, drained, ?_⟩
  have filled : ¬(server.session.store.receive clientName).1.isEmpty := by simp [received, waiting]
  exact if_neg filled

theorem Ready.handleMessage_eq (ready : server.Ready) (disk : Disk) {message : Message}
    (opens : message ≠ .inputClosed) :
    server.handleMessage disk message =
      ((server.reply disk message).1 ++ (server.reply disk message).2.notify.1,
        (server.reply disk message).2.notify.2) := by
  cases message with
  | line text =>
    rw [handleMessage, reply]
    split
    · simp [notify_of_nothing ready.drained]
    · rfl
  | changes events => rfl
  | inputClosed => exact absurd rfl opens

/-- Behind a request or a batch an event waits for the client exactly when the endpoints changed. -/
theorem Ready.advance (ready : server.Ready) {after : Session}
    (advances : server.session.Advances disk after) :
    after.Consistent ∧ after.HoldsOnly Controller.HasVerbs ∧
      ∃ events, after.store.Follows clientName events ∧
        (events = [] ↔ server.endpoints = after.store.snapshot.endpoints) := by
  cases advances with
  | stays idle followed =>
    refine ⟨ready.consistent.idle idle, ready.verbs.idle idle, [], ?_, ?_⟩
    · rw [Store.Follows, followed]
      exact ready.drained
    · simp [endpoints, idle.snapshot]
  | @refreshes middle idle followed =>
    have consistent := (ready.consistent.idle idle).refresh disk
    have verbs := (ready.verbs.idle idle).refresh (fun _ _ _ => Controller.hasVerbs_of_ofText?) disk
    have drained : middle.store.Follows clientName [] := by
      rw [Store.Follows, followed]
      exact ready.drained
    have follows := drained.refresh disk
    rw [List.nil_append, Store.refresh_fst, idle.snapshot] at follows
    refine ⟨consistent, verbs, _, follows, ?_⟩
    -- the store compares identities, which tell endpoints apart since methods are verbs
    rw [endpoints, ← Snapshot.identities_eq_iff (ready.consistent.methods ready.verbs)
      (consistent.methods verbs)]
    by_cases same : server.session.store.snapshot.identities =
        (middle.store.refresh disk).2.snapshot.identities
    · exact iff_of_true (by simp [same]) same
    · exact iff_of_false (by simp [same]) same

/-- After a message the server is ready again. -/
theorem Ready.handleMessage (ready : server.Ready) (disk : Disk) (message : Message) :
    (server.handleMessage disk message).2.Ready := by
  by_cases opens : message = .inputClosed
  · subst opens
    exact ready
  obtain ⟨consistent, verbs, events, follows, _⟩ := ready.advance (server.reply_advances disk message)
  rw [ready.handleMessage_eq disk opens]
  by_cases waiting : events = []
  · subst waiting
    rw [notify_of_nothing follows]
    exact ⟨consistent, verbs, follows⟩
  · obtain ⟨told, idle, _, drained, notifies⟩ := notify_of_waiting follows waiting
    have searched : told.Idle (told.searchGrouped told.query).2 := ⟨rfl, rfl, rfl, fun _ _ found => found⟩
    rw [notifies]
    exact ⟨(consistent.idle idle).idle searched, (verbs.idle idle).idle searched, drained⟩

end Server

end Rpc

end RouteExplorer
