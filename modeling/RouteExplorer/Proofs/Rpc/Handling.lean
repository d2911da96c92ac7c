import RouteExplorer.Proofs.Session.Run
import RouteExplorer.Rpc.Answer

/-!
What a handler leaves of a session. A request only looks at the session or cannot fail any more once its
parameters are read, so that a handler which fails has done nothing yet.
-/
namespace RouteExplorer.Rpc

open Json (Value)

def Request.looks : Request → Bool
  | .listMethods | .viewState | .routes | .controllers | .locateRoute _ _ | .locateFile _ => true
  | _ => false

def lookingMethods : List String :=
  ["list_methods", "view_state", "routes", "controllers", "locate_route", "locate_file"]

variable {disk : Disk} {session : Session} {request : Request} {method : String} {parameters : Value}

namespace Handler

variable {α β : Type}

/-- What comes second works on what the first has left, and does not come if the first fails. -/
theorem on_bind (handler : Handler α) (rest : α → Handler β) (session : Session) :
    (handler >>= rest).on session =
      match handler.on session with
      | (.ok value, next) => (rest value).on next
      | (.error error, next) => (.error error, next) := by
  change (ExceptT.bindCont rest (handler.on session).1) (handler.on session).2 = _
  rcases handler.on session with ⟨_ | value, next⟩ <;> rfl

/-- A handler that fails is not undone. -/
example (session : Session) :
    (on (do modify Session.toggleDisplayMode; throw .invalidParameters : Handler Unit) session).2 =
      session.toggleDisplayMode :=
  rfl

theorem on_lift (found : Except RequestError α) (session : Session) :
    Handler.on (liftM found) session = (found, session) :=
  rfl

theorem outcome_eq_ok {handler : Handler α} {value : α} {next : Session} :
    handler.outcome session = .ok (value, next) ↔ handler.on session = (.ok value, next) := by
  unfold outcome
  rcases handler.on session with ⟨_ | found, after⟩ <;> simp

theorem outcome_eq_error {handler : Handler α} {error : RequestError} :
    handler.outcome session = .error error ↔ (handler.on session).1 = .error error := by
  unfold outcome
  rcases handler.on session with ⟨_ | found, after⟩ <;> simp

end Handler

theorem perform_locateFile (disk : Disk) (session : Session) (given : FilePath) :
    ((Request.locateFile given).perform disk).on session =
      (match Session.locateFile? disk (resolvePath disk session given) with
        | some location => .ok location.encode
        | none => .error (.missingFile (resolvePath disk session given)), session) :=
  rfl

theorem perform_locateRoute (disk : Disk) (session : Session) (httpMethod fullPath : String) :
    ((Request.locateRoute httpMethod fullPath).perform disk).on session =
      match findRoute session httpMethod fullPath with
      | .error error => (.error error, session)
      | .ok route =>
        (match Session.locateRoute? disk route with
          | some location => .ok location.encode
          | none => .error (.missingFile route.sourceFile), session) := by
  change Handler.on (liftM (findRoute session httpMethod fullPath) >>= _) session = _
  rw [Handler.on_bind, Handler.on_lift]
  cases findRoute session httpMethod fullPath <;> rfl

theorem session_of_looks (looks : request.looks = true) (disk : Disk) (session : Session) :
    ((request.perform disk).on session).2 = session := by
  cases request with
  | listMethods | viewState | routes | controllers | locateFile => rfl
  | locateRoute =>
    rw [perform_locateRoute]
    split <;> rfl
  | _ => cases looks

/-- Whatever works on a session is past all that can fail. -/
theorem looks_of_refused {error : RequestError}
    (refused : ((request.perform disk).on session).1 = .error error) : request.looks = true := by
  cases request with
  | listMethods | viewState | routes | controllers | locateFile | locateRoute => rfl
  | _ => cases refused

/-- A method is handled as the request that it decodes to. -/
theorem perform_eq (disk : Disk) (session : Session) (method : String) (parameters : Value) :
    (perform disk method parameters).on session =
      match Request.decode method parameters with
      | .error error => (.error error, session)
      | .ok request =>
        (((request.perform disk).on session).1.map Value.ordered, ((request.perform disk).on session).2) := by
  rw [perform, Handler.on_bind, Handler.on_lift]
  cases Request.decode method parameters with
  | error error => rfl
  | ok request =>
    dsimp only
    rw [Handler.on_bind]
    rcases (request.perform disk).on session with ⟨_ | value, next⟩ <;> rfl

theorem exists_of_decoded {α : Type} {found : Option α} {make : α → Request}
    (decodes : decoded found make = .ok request) : ∃ given, found = some given ∧ request = make given := by
  cases found with
  | none => cases decodes
  | some given =>
    cases decodes
    exact ⟨given, rfl, rfl⟩

theorem looks_of_decodes (looking : method ∈ lookingMethods)
    (decodes : Request.decode method parameters = .ok request) : request.looks = true := by
  simp only [lookingMethods, List.mem_cons, List.not_mem_nil, or_false] at looking
  rcases looking with rfl | rfl | rfl | rfl | rfl | rfl
  iterate 4
    · cases decodes
      rfl
  · obtain ⟨_, _, rfl⟩ := exists_of_decoded decodes
    rfl
  · obtain ⟨_, _, rfl⟩ := exists_of_decoded decodes
    rfl

/-- A method is answered, or it is refused with nothing done, by a request that only looks if it decodes. -/
theorem perform_cases (disk : Disk) (session : Session) (method : String) (parameters : Value) :
    (∃ request value next, Request.decode method parameters = .ok request ∧
        answer disk session request = .ok (value, next) ∧
        (perform disk method parameters).on session = (.ok value.ordered, next)) ∨
      ∃ error, (perform disk method parameters).on session = (.error error, session) ∧
        ∀ request, Request.decode method parameters = .ok request → request.looks = true := by
  rw [perform_eq]
  cases Request.decode method parameters with
  | error error => exact .inr ⟨error, rfl, by simp⟩
  | ok request =>
    dsimp only
    cases performs : ((request.perform disk).on session).1 with
    | error error =>
      have looks := looks_of_refused performs
      refine .inr ⟨error, by rw [session_of_looks looks]; rfl, ?_⟩
      rintro _ ⟨⟩
      exact looks
    | ok value =>
      exact .inl ⟨request, value, _, rfl, Handler.outcome_eq_ok.mpr (Prod.ext performs rfl), rfl⟩

/-- A method that is refused leaves the whole session as it was, and a method that only looks does so in any
case. -/
theorem perform_leaves_session (disk : Disk) (session : Session) (method : String) (parameters : Value) :
    (∀ error, ((perform disk method parameters).on session).1 = .error error →
        ((perform disk method parameters).on session).2 = session) ∧
      (method ∈ lookingMethods → ((perform disk method parameters).on session).2 = session) := by
  constructor
  · intro error refused
    rcases perform_cases disk session method parameters with ⟨_, _, _, _, _, performs⟩ | ⟨_, performs, _⟩
    · rw [performs] at refused
      cases refused
    · rw [performs]
  · intro looking
    rw [perform_eq]
    cases decodes : Request.decode method parameters with
    | error error => rfl
    | ok request => exact session_of_looks (looks_of_decodes looking decodes) disk session

open Explorer (controllerText overDirectories)

/-- A session with an unsaved edit and a collapsed owner. -/
def editedCats : Explorer :=
  (overDirectories [("w", controllerText "Cats" "@Get()a()\x7b\x7d")]).run
    [.refresh, .openBuffer ⟨"/w/a.ts"⟩ (controllerText "Dogs" "@Get()a()\x7b\x7d") 1, .toggleOwner "Cats"]

def goneFile : Value := .object [("path", .string "b.ts")]

private theorem eq_error_of_map {α β : Type} {found : Except RequestError α} {error : RequestError}
    (change : α → β) (fails : found.map change = .error error) : found = .error error := by
  cases found <;> cases fails
  rfl

theorem editedCats_left :
    ((perform editedCats.disk "locate_file" goneFile).on editedCats.session).1 =
        .error (.missingFile ⟨"/w/b.ts"⟩) ∧
      ((perform editedCats.disk "locate_file" goneFile).on editedCats.session).2 = editedCats.session ∧
      "controllers" ∈ lookingMethods ∧
      ((perform editedCats.disk "controllers" .null).on editedCats.session).2 = editedCats.session := by
  have refused : ((perform editedCats.disk "locate_file" goneFile).on editedCats.session).1 =
      .error (.missingFile ⟨"/w/b.ts"⟩) :=
    eq_error_of_map (fun _ => ()) (by decide +kernel)
  have looking : "controllers" ∈ lookingMethods := by decide
  exact ⟨refused, (perform_leaves_session editedCats.disk editedCats.session "locate_file" goneFile).1 _ refused,
    looking, (perform_leaves_session editedCats.disk editedCats.session "controllers" .null).2 looking⟩

end RouteExplorer.Rpc
