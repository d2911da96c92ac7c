import RouteExplorer.Proofs.Rpc.Handling
import RouteExplorer.Proofs.Search.View
import RouteExplorer.Proofs.Workspace.Overlay

namespace RouteExplorer

open Search (Choice Gesture)

namespace Session

def query (session : Session) : String := session.view.searchQuery

/-- What the user has chosen of the view. -/
def choice (session : Session) : Choice := session.grouping.choice

theorem choice_applyBatch (session : Session) (disk : Disk) (events : List ChangeEvent) :
    (session.applyBatch disk events).2.choice = session.choice := by
  obtain ⟨_, frame⟩ := session.absorbed_frame events
  rw [applyBatch_eq, frame]
  split <;> rfl

end Session

namespace Rpc

/-- A path as a client gives it, below the first root unless it is absolute. -/
def spelled (roots : List FilePath) (given : FilePath) : FilePath :=
  match roots with
  | root :: _ => root.join given
  | [] => given

/-- An edit of the buffer of a file: the path that a client gives for the file, and what becomes of the
buffer. -/
structure Edit where
  given : FilePath
  change : Option Buffer → Option Buffer

/-- The buffer of a file after an edit, if there is one and the client means the file. -/
def Edit.after (means : FilePath → Bool) (buffer : Option Buffer) : Option Edit → Option Buffer
  | some edit => if means edit.given then edit.change buffer else buffer
  | none => buffer

namespace Request

/-- The gesture of the user that a request is, if it is one. -/
def gesture? : Request → Option Gesture
  | .search query | .searchFlat query => some (.search query)
  | .toggleOwner owner => some (.toggleOwner owner)
  | .toggleDisplayMode => some .toggleDisplayMode
  | _ => none

def query? : Request → Option String
  | .search query | .searchFlat query => some query
  | _ => none

def edit? : Request → Option Edit
  | .bufferOpen path text version => some ⟨path, Buffer.opened text version⟩
  | .bufferUpdate path text version => some ⟨path, Buffer.updated text version⟩
  | .bufferClose path => some ⟨path, Buffer.closed⟩
  | _ => none

/-- What an answered request does to a session. -/
inductive Effect (disk : Disk) (session : Session) : Request → Session → Prop where
  | views {request : Request} (grouping : Search.Grouping)
    (known : grouping.controllers = session.grouping.controllers)
    (chosen : grouping.choice = request.gesture?.elim session.choice session.choice.after)
    (leaves : request.edit? = none) :
    Effect disk session request { session with grouping := grouping }
  | refreshes : Effect disk session .refresh (session.refresh disk).2
  | reports (change : FileChange) (given : FilePath) :
    Effect disk session (.fileEvent change given)
      (session.applyBatch disk [change.event (resolvePath disk session given)]).2
  | edits {request : Request} (edit : Edit) {overlay : Overlay} (makes : request.edit? = some edit)
    (quiet : request.gesture? = none)
    (edits : session.index.overlay.Edits overlay (resolvePath disk session edit.given) edit.change) :
    Effect disk session request
      ((session.withOverlay overlay).applyBatch disk [.saved (resolvePath disk session edit.given)]).2

variable {disk : Disk} {session next : Session} {request : Request}

/-- Whatever a request does, the user's choice moves by its gesture only. -/
theorem Effect.choice (effect : request.Effect disk session next) :
    next.choice = request.gesture?.elim session.choice session.choice.after := by
  cases effect with
  | views grouping _ chosen _ => exact chosen
  | refreshes => rfl
  | reports change given => exact session.choice_applyBatch disk _
  | edits _ _ quiet _ =>
    rw [quiet]
    exact Session.choice_applyBatch _ disk _

theorem query_of_gesture (request : Request) (choice : Choice) :
    (request.gesture?.elim choice choice.after).query = request.query?.getD choice.query := by
  cases request <;> rfl

end Request

variable {disk : Disk} {session : Session}

theorem effect_of_answer {request : Request} {value : Json.Value} {next : Session}
    (answers : answer disk session request = .ok (value, next)) : request.Effect disk session next := by
  cases request with
  | listMethods | viewState | routes | controllers | search | searchFlat | toggleDisplayMode =>
    cases answers
    exact .views _ rfl rfl rfl
  | toggleOwner owner =>
    cases answers
    exact .views _ rfl (session.grouping.choice_toggleOwner owner) rfl
  | refresh =>
    cases answers
    exact .refreshes
  | locateRoute | locateFile =>
    have stays := congrArg Prod.snd (Handler.outcome_eq_ok.mp answers)
    rw [session_of_looks rfl] at stays
    cases stays
    exact .views _ rfl rfl rfl
  | bufferOpen given text version =>
    cases answers
    exact .edits ⟨given, Buffer.opened text version⟩ rfl rfl (session.index.overlay.edits_openBuffer _ text version)
  | bufferUpdate given text version =>
    cases answers
    exact .edits ⟨given, Buffer.updated text version⟩ rfl rfl (session.index.overlay.edits_updateBuffer _ text version)
  | bufferClose given =>
    cases answers
    exact .edits ⟨given, Buffer.closed⟩ rfl rfl (session.index.overlay.edits_closeBuffer _)
  | fileEvent change given =>
    cases answers
    exact .reports change given

theorem edit?_of_looks {request : Request} (looks : request.looks = true) : request.edit? = none := by
  cases request with
  | bufferOpen | bufferUpdate | bufferClose => cases looks
  | _ => rfl

/-- A request is answered, or it is refused and would have edited nothing. -/
theorem handle_cases (disk : Disk) (session : Session) (method : String) (parameters : Json.Value) :
    (∃ request value next, Request.decode method parameters = .ok request ∧
        request.Effect disk session next ∧ handle disk session method parameters = .ok (value, next)) ∨
      ∃ error, handle disk session method parameters = .error error ∧
        ∀ request, Request.decode method parameters = .ok request → request.edit? = none := by
  rcases perform_cases disk session method parameters with
    ⟨request, value, next, decodes, answers, performs⟩ | ⟨error, performs, looks⟩
  · exact .inl ⟨request, _, next, decodes, effect_of_answer answers, Handler.outcome_eq_ok.mpr performs⟩
  · have refused := congrArg Prod.fst performs
    exact .inr ⟨error, Handler.outcome_eq_error.mpr refused, fun request decodes =>
      edit?_of_looks (looks request decodes)⟩

end Rpc

end RouteExplorer
