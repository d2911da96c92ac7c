import Mathlib.Data.List.Forall2
import RouteExplorer.Proofs.Rpc.UnsavedEdits
import RouteExplorer.Proofs.Session.InStep

/-!
Clients that spell the path of a file in different ways. As long as the file is there the two are answered
alike, whatever the detours. A file that is gone is known by the components of its path alone, so that only
detours which leave these as they are go unnoticed.
-/
namespace RouteExplorer

namespace Disk

/-- Paths of which one can stand for the other: they lead to one place, or to none and are spellings of one
path. -/
def Exchangeable (disk : Disk) (left right : FilePath) : Prop :=
  disk.resolve? left = disk.resolve? right ∧ (disk.resolve? left = none → left.same right = true)

instance (disk : Disk) (left right : FilePath) : Decidable (disk.Exchangeable left right) :=
  inferInstanceAs (Decidable (_ ∧ _))

theorem Exchangeable.refl (disk : Disk) (path : FilePath) : disk.Exchangeable path path :=
  ⟨rfl, fun _ => FilePath.same_refl path⟩

theorem Exchangeable.same_canonical {disk : Disk} {left right : FilePath}
    (exchangeable : disk.Exchangeable left right) : (disk.canonical left).same (disk.canonical right) = true := by
  obtain ⟨leads, nowhere⟩ := exchangeable
  unfold canonical
  rw [← leads]
  cases goes : disk.resolve? left with
  | none => exact nowhere goes
  | some place => exact FilePath.same_refl _

end Disk

namespace Rpc

open Json (Value)

variable {disk : Disk} {left right : Session}

def reported (result : Bool × Session) : Except RequestError Value × Session :=
  (.ok (.object [("refreshed", .bool result.1)]), result.2)

theorem perform_edit {request : Request} {edit : Edit} (makes : request.edit? = some edit) (disk : Disk)
    (session : Session) :
    ∃ overlay, session.index.overlay.Edits overlay (resolvePath disk session edit.given) edit.change ∧
      (request.perform disk).on session = reported ((session.withOverlay overlay).apply disk
        (.saved (resolvePath disk session edit.given))) := by
  cases request with
  | bufferOpen given text version =>
    cases makes
    exact ⟨_, session.index.overlay.edits_openBuffer _ text version, rfl⟩
  | bufferUpdate given text version =>
    cases makes
    exact ⟨_, session.index.overlay.edits_updateBuffer _ text version, rfl⟩
  | bufferClose given =>
    cases makes
    exact ⟨_, session.index.overlay.edits_closeBuffer _, rfl⟩
  | _ => cases makes

theorem perform_fileEvent (disk : Disk) (session : Session) (change : FileChange) (given : FilePath) :
    ((Request.fileEvent change given).perform disk).on session =
      reported (session.apply disk (change.event (resolvePath disk session given))) :=
  rfl

/-- The same request, which may give the path of the file that it reports or edits in another way. -/
inductive Request.Respells (disk : Disk) (roots : List FilePath) : Request → Request → Prop where
  | kept (request : Request) : Respells disk roots request request
  | bufferOpen (text : String) (version : Int) {given other : FilePath}
    (exchangeable : disk.Exchangeable (spelled roots given) (spelled roots other)) :
    Respells disk roots (.bufferOpen given text version) (.bufferOpen other text version)
  | bufferUpdate (text : String) (version : Int) {given other : FilePath}
    (exchangeable : disk.Exchangeable (spelled roots given) (spelled roots other)) :
    Respells disk roots (.bufferUpdate given text version) (.bufferUpdate other text version)
  | bufferClose {given other : FilePath}
    (exchangeable : disk.Exchangeable (spelled roots given) (spelled roots other)) :
    Respells disk roots (.bufferClose given) (.bufferClose other)
  | fileEvent (change : FileChange) {given other : FilePath}
    (exchangeable : disk.Exchangeable (spelled roots given) (spelled roots other)) :
    Respells disk roots (.fileEvent change given) (.fileEvent change other)

structure AnsweredAlike (first second : Except RequestError Value × Session) : Prop where
  told : first.1 = second.1
  inStep : first.2.InStep second.2

theorem answeredAlike_reported {event other : ChangeEvent} (inStep : left.InStep right)
    (same : event.same other = true) (disk : Disk) :
    AnsweredAlike (reported (left.apply disk event)) (reported (right.apply disk other)) := by
  obtain ⟨refreshed, later⟩ := inStep.apply disk same
  exact ⟨by rw [reported, reported, refreshed], later⟩

section

variable (inStep : left.InStep right) {given other : FilePath}
  (exchangeable : disk.Exchangeable (spelled left.index.roots given) (spelled left.index.roots other))

include inStep exchangeable

theorem same_resolvePath : (resolvePath disk left given).same (resolvePath disk right other) = true := by
  have same := exchangeable.same_canonical
  have roots : spelled left.index.roots other = spelled right.index.roots other := by rw [inStep.index.roots]
  rwa [roots] at same

theorem answeredAlike_edit {request second : Request} {change : Option Buffer → Option Buffer}
    (makes : request.edit? = some ⟨given, change⟩) (also : second.edit? = some ⟨other, change⟩) :
    AnsweredAlike ((request.perform disk).on left) ((second.perform disk).on right) := by
  have same := same_resolvePath inStep exchangeable
  obtain ⟨first_overlay, left_edits, left_performs⟩ := perform_edit makes disk left
  obtain ⟨second_overlay, right_edits, right_performs⟩ := perform_edit also disk right
  have saved : (ChangeEvent.saved (resolvePath disk left given)).same (.saved (resolvePath disk right other)) = true :=
    same
  rw [left_performs, right_performs]
  exact answeredAlike_reported (inStep.withOverlay same left_edits right_edits) saved disk

theorem answeredAlike_fileEvent (change : FileChange) :
    AnsweredAlike (((Request.fileEvent change given).perform disk).on left)
      (((Request.fileEvent change other).perform disk).on right) := by
  have same := same_resolvePath inStep exchangeable
  rw [perform_fileEvent, perform_fileEvent]
  exact answeredAlike_reported inStep (by cases change <;> exact same) disk

end

/-- Sessions in step answer a request alike. -/
theorem answeredAlike_perform (inStep : left.InStep right) (disk : Disk) (request : Request) :
    AnsweredAlike ((request.perform disk).on left) ((request.perform disk).on right) := by
  have exchangeable (given : FilePath) := Disk.Exchangeable.refl disk (spelled left.index.roots given)
  cases request with
  | bufferOpen given text version => exact answeredAlike_edit inStep (exchangeable given) rfl rfl
  | bufferUpdate given text version => exact answeredAlike_edit inStep (exchangeable given) rfl rfl
  | bufferClose given => exact answeredAlike_edit inStep (exchangeable given) rfl rfl
  | fileEvent change given => exact answeredAlike_fileEvent inStep (exchangeable given) change
  | refresh =>
    obtain ⟨changed, later⟩ := inStep.refresh disk
    have performs (session : Session) : (Request.refresh.perform disk).on session =
        (.ok (.object [("changed", .bool (session.refresh disk).1),
          ("totalEndpoints", .natural (session.refresh disk).2.store.snapshot.routes.length)]),
          (session.refresh disk).2) := rfl
    rw [performs, performs, changed, later.snapshot]
    exact ⟨rfl, later⟩
  | locateFile given =>
    have path : resolvePath disk left given = resolvePath disk right given := by
      rw [resolvePath, inStep.index.roots]
      rfl
    rw [perform_locateFile, perform_locateFile, path]
    exact ⟨rfl, inStep⟩
  | locateRoute httpMethod fullPath =>
    have found : findRoute left httpMethod fullPath = findRoute right httpMethod fullPath := by
      rw [findRoute, inStep.snapshot]
      rfl
    rw [perform_locateRoute, perform_locateRoute, found]
    cases findRoute right httpMethod fullPath <;> exact ⟨rfl, inStep⟩
  | _ =>
    -- what is left depends on what is in view only
    obtain ⟨index, snapshot, searched, grouping⟩ := inStep
    obtain ⟨⟨left_index, left_snapshot, left_subscribers⟩, left_searched, left_grouping⟩ := left
    obtain ⟨⟨right_index, right_snapshot, right_subscribers⟩, right_searched, right_grouping⟩ := right
    cases snapshot
    cases searched
    cases grouping
    exact ⟨rfl, index, rfl, rfl, rfl⟩

/-- Sessions in step answer alike when a request gives its path in another way. -/
theorem Request.Respells.answeredAlike {request other : Request}
    (respells : request.Respells disk left.index.roots other) (inStep : left.InStep right) :
    AnsweredAlike ((request.perform disk).on left) ((other.perform disk).on right) := by
  cases respells with
  | kept => exact answeredAlike_perform inStep disk request
  | bufferOpen text version exchangeable | bufferUpdate text version exchangeable =>
    exact answeredAlike_edit inStep exchangeable rfl rfl
  | bufferClose exchangeable => exact answeredAlike_edit inStep exchangeable rfl rfl
  | fileEvent change exchangeable => exact answeredAlike_fileEvent inStep exchangeable change

def Call.Respells (disk : Disk) (roots : List FilePath) (call other : Call) : Prop :=
  call = other ∨ ∃ request second, Request.decode call.method call.parameters = .ok request ∧
    Request.decode other.method other.parameters = .ok second ∧ request.Respells disk roots second

def Call.on (call : Call) (disk : Disk) (session : Session) : Except RequestError Value × Session :=
  (perform disk call.method call.parameters).on session

theorem Call.Respells.answeredAlike {call other : Call} (respells : call.Respells disk left.index.roots other)
    (inStep : left.InStep right) : AnsweredAlike (call.on disk left) (other.on disk right) := by
  rw [Call.on, Call.on, perform_eq, perform_eq]
  rcases respells with rfl | ⟨request, second, decodes, also, respells⟩
  · cases Request.decode call.method call.parameters with
    | error error => exact ⟨rfl, inStep⟩
    | ok request =>
      obtain ⟨told, later⟩ := answeredAlike_perform inStep disk request
      exact ⟨congrArg (Except.map Value.ordered) told, later⟩
  · obtain ⟨told, later⟩ := respells.answeredAlike inStep
    rw [decodes, also]
    exact ⟨congrArg (Except.map Value.ordered) told, later⟩

/-- What comes of calls one after another, each over the disk that is there at the time, and the session behind
them. -/
def conversation (session : Session) : List (Disk × Call) → List (Except RequestError Value) × Session
  | [] => ([], session)
  | (disk, call) :: rest =>
    let (answer, next) := call.on disk session
    let (others, last) := conversation next rest
    (answer :: others, last)

def Respelled (roots : List FilePath) (turn other : Disk × Call) : Prop :=
  turn.1 = other.1 ∧ turn.2.Respells turn.1 roots other.2

theorem roots_on (call : Call) (disk : Disk) (session : Session) :
    (call.on disk session).2.index.roots = session.index.roots := by
  have after : sessionAfter disk session call = (call.on disk session).2 := by
    unfold sessionAfter handle Handler.outcome
    rcases perform_cases disk session call.method call.parameters with
      ⟨_, _, _, _, _, performs⟩ | ⟨_, performs, _⟩ <;> rw [Call.on, performs]
  obtain ⟨_, _, index, _⟩ := sessionAfter_frame disk session call
  rw [← after, index]

/-- Conversations of sessions in step stay alike as long as their calls are. -/
theorem conversation_alike {roots : List FilePath} {calls others : List (Disk × Call)}
    (respelled : List.Forall₂ (Respelled roots) calls others) (inStep : left.InStep right)
    (rooted : left.index.roots = roots) :
    (conversation left calls).1 = (conversation right others).1 ∧
      (conversation left calls).2.InStep (conversation right others).2 := by
  induction respelled generalizing left right with
  | nil => exact ⟨rfl, inStep⟩
  | @cons turn other rest others first _ ih =>
    obtain ⟨disk, call⟩ := turn
    obtain ⟨_, second⟩ := other
    obtain ⟨rfl, respells⟩ := first
    subst rooted
    obtain ⟨told, next⟩ := respells.answeredAlike inStep
    obtain ⟨answers, last⟩ := ih next (roots_on call disk left)
    exact ⟨congrArg₂ List.cons told answers, last⟩

/-- Two clients who talk to a session over the same disks, and of whom one gives the paths of the files that it
reports or edits in another way, get the same answers. After each call the session knows the same, has the same
buffers and shows the same to both. The disk may change between the calls in any way. At a call of which the
paths differ, they lead to one place at that time, or to none and are spellings of one path. -/
theorem conversation_respelled {session : Session} {calls others : List (Disk × Call)}
    (respelled : List.Forall₂ (Respelled session.index.roots) calls others) :
    (conversation session calls).1 = (conversation session others).1 ∧
      ∀ count,
        let one := (conversation session (calls.take count)).2
        let another := (conversation session (others.take count)).2
        (∀ path, one.index.cache.get? path = another.index.cache.get? path) ∧
          (∀ path, one.index.overlay.buffers.get? path = another.index.overlay.buffers.get? path) ∧
          one.store.snapshot = another.store.snapshot := by
  refine ⟨(conversation_alike respelled (.refl session) rfl).1, ?_⟩
  intro count one another
  obtain ⟨_, inStep⟩ := conversation_alike (List.forall₂_take count respelled) (.refl session) rfl
  exact ⟨inStep.index.known, inStep.index.buffers, inStep.snapshot⟩

open Explorer (controllerText)

def dogsText : String := controllerText "Dogs" "@Get()a()\x7b\x7d"

def opening (path : String) : Call := ⟨"buffer_open", .object [("path", .string path), ("text", .string dogsText)]⟩

def deletion (path : String) : Call := ⟨"file_event", .object [("kind", .string "deleted"), ("path", .string path)]⟩

def closing (path : String) : Call := ⟨"buffer_close", .object [("path", .string path)]⟩

def goneDisk : Disk := savedCats.disk.remove ["w", "a.ts"]

theorem savedCats_roots : savedCats.session.index.roots = [⟨"/w"⟩] := Explorer.roots_step _ .refresh

theorem edited_then_gone_respelled :
    let calls := [(savedCats.disk, opening "a.ts"), (goneDisk, deletion "a.ts"), (goneDisk, closing "a.ts")]
    let others :=
      [(savedCats.disk, opening "/w/../w//a.ts"), (goneDisk, deletion "/w/./a.ts"), (goneDisk, closing ".//a.ts")]
    List.Forall₂ (Respelled savedCats.session.index.roots) calls others ∧
      (conversation savedCats.session calls).1 = (conversation savedCats.session others).1 ∧
      (conversation savedCats.session (others.take 1)).2.store.snapshot.controllers.map Controller.name = ["Dogs"] ∧
      (conversation savedCats.session (calls.take 1)).2.store.snapshot =
        (conversation savedCats.session (others.take 1)).2.store.snapshot := by
  intro calls others
  have opened : (opening "a.ts").Respells savedCats.disk [⟨"/w"⟩] (opening "/w/../w//a.ts") :=
    .inr ⟨.bufferOpen ⟨"a.ts"⟩ dogsText 0, .bufferOpen ⟨"/w/../w//a.ts"⟩ dogsText 0, rfl, rfl,
      .bufferOpen dogsText 0 (by decide +kernel)⟩
  have deleted : (deletion "a.ts").Respells goneDisk [⟨"/w"⟩] (deletion "/w/./a.ts") :=
    .inr ⟨.fileEvent .deleted ⟨"a.ts"⟩, .fileEvent .deleted ⟨"/w/./a.ts"⟩, rfl, rfl,
      .fileEvent .deleted (by decide +kernel)⟩
  have closed : (closing "a.ts").Respells goneDisk [⟨"/w"⟩] (closing ".//a.ts") :=
    .inr ⟨.bufferClose ⟨"a.ts"⟩, .bufferClose ⟨".//a.ts"⟩, rfl, rfl, .bufferClose (by decide +kernel)⟩
  have respelled : List.Forall₂ (Respelled savedCats.session.index.roots) calls others := by
    rw [savedCats_roots]
    exact .cons ⟨rfl, opened⟩ (.cons ⟨rfl, deleted⟩ (.cons ⟨rfl, closed⟩ .nil))
  obtain ⟨answers, alike⟩ := conversation_respelled respelled
  exact ⟨respelled, answers, by decide +kernel, (alike 1).2.2⟩

/-- A file that is gone is not known by a path with a detour, which led to it while it was there. -/
theorem gone_missed_by_detour :
    let roots := savedCats.session.index.roots
    let plain := (conversation savedCats.session [(goneDisk, deletion "a.ts")]).2
    let detour := (conversation savedCats.session [(goneDisk, deletion "../w/a.ts")]).2
    savedCats.disk.resolve? (spelled roots ⟨"a.ts"⟩) = some ["w", "a.ts"] ∧
      savedCats.disk.resolve? (spelled roots ⟨"../w/a.ts"⟩) = some ["w", "a.ts"] ∧
      goneDisk.resolve? (spelled roots ⟨"a.ts"⟩) = none ∧
      goneDisk.resolve? (spelled roots ⟨"../w/a.ts"⟩) = none ∧
      plain.index.cache.contains ⟨"/w/a.ts"⟩ = false ∧ plain.store.snapshot.routes.length = 0 ∧
      detour.index.cache.contains ⟨"/w/a.ts"⟩ = true ∧ detour.store.snapshot.routes.length = 1 := by
  intro roots plain detour
  rw [show roots = [⟨"/w"⟩] from savedCats_roots]
  refine ⟨?_, ?_, ?_, ?_, ?_, ?_, ?_, ?_⟩ <;> decide +kernel

end Rpc

end RouteExplorer
