import RouteExplorer.Proofs.Rpc.Effect
import RouteExplorer.Proofs.Session.UpToDate
import RouteExplorer.Proofs.Workspace.Canonical

namespace RouteExplorer.Rpc

variable {disk : Disk} {session : Session}

namespace Request

variable {request : Request} {next : Session}

/-- A request keeps the roots and the patterns, and of the buffers it changes the one that it edits. -/
theorem Effect.frame (effect : request.Effect disk session next) :
    ∃ overlay cache, next.index = ⟨session.index.roots, session.index.patterns, overlay, cache⟩ ∧
      ∀ file, overlay.buffers.get? file =
        Edit.after (fun given => (disk.canonical (spelled session.index.roots given)).same file)
          (session.index.overlay.buffers.get? file) request.edit? := by
  cases effect with
  | views grouping _ _ leaves =>
    refine ⟨_, _, rfl, ?_⟩
    intro file
    rw [leaves]
    rfl
  | refreshes =>
    obtain ⟨cache, scans⟩ := session.index.scan_frame disk
    refine ⟨_, cache, (session.refresh_index disk).trans scans, ?_⟩
    intro file
    rfl
  | reports change given =>
    let event := change.event (resolvePath disk session given)
    obtain ⟨cache, index⟩ := session.applyBatch_index disk [event]
    have quiet : ChangeEvent.lastPatterns? [event] = none := by cases change <;> rfl
    rw [quiet] at index
    refine ⟨_, cache, index, ?_⟩
    intro file
    rfl
  | @edits _ edit overlay makes _ edits =>
    obtain ⟨cache, index⟩ := (session.withOverlay overlay).applyBatch_index disk
      [.saved (resolvePath disk session edit.given)]
    refine ⟨overlay, cache, index, ?_⟩
    intro file
    rw [makes]
    exact edits file

theorem Effect.upToDate (effect : request.Effect disk session next) (sound : disk.Sound)
    (upToDate : session.UpToDate disk) : next.UpToDate disk := by
  cases effect with
  | views => exact upToDate.of_eq rfl rfl
  | refreshes => exact Session.upToDate_refresh sound upToDate.current
  | reports change given => exact upToDate.applyBatch sound _
  | edits _ _ _ edits => exact upToDate.edit edits sound

end Request

structure Call where
  method : String
  parameters : Json.Value

/-- The edit that a call makes, if it can be read at all. -/
def Call.edit? (call : Call) : Option Edit :=
  (Request.decode call.method call.parameters).toOption.bind Request.edit?

/-- The session behind a call. A call that is refused leaves it as it is. -/
def sessionAfter (disk : Disk) (session : Session) (call : Call) : Session :=
  match handle disk session call.method call.parameters with
  | .ok (_, next) => next
  | .error _ => session

def sessionAfterAll (disk : Disk) (session : Session) (calls : List Call) : Session :=
  calls.foldl (sessionAfter disk) session

/-- The buffer of a file after some calls, if their client means the file by some paths. -/
def bufferAfter (means : FilePath → Bool) (before : Option Buffer) (calls : List Call) : Option Buffer :=
  calls.foldl (fun buffer call => Edit.after means buffer call.edit?) before

/-- A client means a file by each path that leads to it, and by each spelling of its own path. -/
def means (disk : Disk) (roots : List FilePath) (file given : FilePath) : Bool :=
  disk.resolve? (spelled roots given) == disk.resolve? file || (spelled roots given).same file

theorem sessionAfter_frame (disk : Disk) (session : Session) (call : Call) :
    ∃ overlay cache,
      (sessionAfter disk session call).index = ⟨session.index.roots, session.index.patterns, overlay, cache⟩ ∧
      ∀ file, overlay.buffers.get? file =
        Edit.after (fun given => (disk.canonical (spelled session.index.roots given)).same file)
          (session.index.overlay.buffers.get? file) call.edit? := by
  rcases handle_cases disk session call.method call.parameters with
    ⟨request, value, next, decodes, effect, answers⟩ | ⟨error, refuses, leaves⟩
  · have edit : call.edit? = request.edit? := by
      rw [Call.edit?, decodes]
      rfl
    rw [sessionAfter, answers, edit]
    exact effect.frame
  · have edit : call.edit? = none := by
      rw [Call.edit?]
      cases decodes : Request.decode call.method call.parameters with
      | error => rfl
      | ok request => exact leaves request decodes
    rw [sessionAfter, refuses, edit]
    exact ⟨_, _, rfl, fun _ => rfl⟩

theorem sessionAfter_upToDate (sound : disk.Sound) (upToDate : session.UpToDate disk) (call : Call) :
    (sessionAfter disk session call).UpToDate disk := by
  rcases handle_cases disk session call.method call.parameters with
    ⟨_, _, _, _, effect, answers⟩ | ⟨_, refuses, _⟩
  · rw [sessionAfter, answers]
    exact effect.upToDate sound upToDate
  · rw [sessionAfter, refuses]
    exact upToDate

/-- Calls keep the roots and the patterns, and make of each buffer what their edits make of it. -/
theorem sessionAfterAll_frame (disk : Disk) (session : Session) (calls : List Call) :
    ∃ overlay cache,
      (sessionAfterAll disk session calls).index =
        ⟨session.index.roots, session.index.patterns, overlay, cache⟩ ∧
      ∀ file, overlay.buffers.get? file =
        bufferAfter (fun given => (disk.canonical (spelled session.index.roots given)).same file)
          (session.index.overlay.buffers.get? file) calls := by
  induction calls generalizing session with
  | nil => exact ⟨_, _, rfl, fun _ => rfl⟩
  | cons call rest ih =>
    obtain ⟨first, known, index, edited⟩ := sessionAfter_frame disk session call
    obtain ⟨last, cache, later, buffers⟩ := ih (sessionAfter disk session call)
    rw [index] at later buffers
    refine ⟨last, cache, later, ?_⟩
    intro file
    rw [buffers, edited]
    rfl

theorem sessionAfterAll_upToDate (sound : disk.Sound) (upToDate : session.UpToDate disk) (calls : List Call) :
    (sessionAfterAll disk session calls).UpToDate disk := by
  induction calls generalizing session with
  | nil => exact upToDate
  | cons call rest ih => exact ih (sessionAfter_upToDate sound upToDate call)

/-- After any calls on a session that was opened over some roots, the routes and the controllers that it
answers with are those of a scan from scratch, as a new index over the same roots and patterns makes it. The scan
reads each file through the buffer that the edits by paths that mean the file have made. -/
theorem unsavedEdits_answered (sound : disk.Sound) {roots : List FilePath} {config : Config}
    (opened : Session.ofRoots disk roots config = .ok session) (calls : List Call) :
    let last := sessionAfterAll disk session calls
    let scratch := last.index.scanFromScratch disk
    (∀ parameters, handle disk last "routes" parameters =
        .ok ((Json.Value.array (scratch.routes.map Route.encode)).ordered, last)) ∧
      (∀ parameters, handle disk last "controllers" parameters =
        .ok ((Json.Value.array (scratch.controllers.map Controller.encode)).ordered, last)) ∧
      last.store.snapshot = scratch ∧
      last.index.roots = roots.map disk.canonical ∧
      FileIndex.patternsOf config = .ok last.index.patterns ∧
      (∃ made, FileIndex.ofConfig disk last.index.roots config = .ok made ∧
        scratch = (FileIndex.scan { made with overlay := last.index.overlay } disk).1) ∧
      ∀ file ∈ last.index.files disk,
        last.index.overlay.buffers.get? file = bufferAfter (means disk last.index.roots file) none calls := by
  intro last scratch
  obtain ⟨patterns, _, accepted, index⟩ := Session.index_of_ofRoots opened
  have upToDate := Session.upToDate_of_ofRoots sound opened
  have shown : last.store.snapshot = scratch := (sessionAfterAll_upToDate sound upToDate calls).shown
  obtain ⟨overlay, cache, later, buffers⟩ := sessionAfterAll_frame disk session calls
  have last_index : last.index = ⟨roots.map disk.canonical, patterns, overlay, cache⟩ := by
    rw [later, index]
  have edited : ∀ file ∈ last.index.files disk,
      last.index.overlay.buffers.get? file = bufferAfter (means disk last.index.roots file) none calls := by
    intro file member
    rw [last_index] at member ⊢
    obtain ⟨place, leads, direct⟩ := sound.listed_canonical member
    have meant : (fun given => (disk.canonical (spelled session.index.roots given)).same file) =
        means disk (roots.map disk.canonical) file := by
      funext given
      rw [Bool.eq_iff_iff, sound.same_canonical_iff leads direct, index]
      simp [means]
    rw [buffers, meant, index]
    rfl
  have last_roots : last.index.roots = roots.map disk.canonical := by rw [last_index]
  have last_patterns : FileIndex.patternsOf config = .ok last.index.patterns := by rw [last_index, accepted]
  have canonical : ∀ root ∈ last.index.roots, disk.canonical root = root := by
    rw [last_roots]
    intro root known
    obtain ⟨given, _, rfl⟩ := List.mem_map.mp known
    exact sound.canonical_canonical given
  refine ⟨?_, ?_, shown, last_roots, last_patterns,
    FileIndex.scanFromScratch_eq_ofConfig canonical last_patterns, edited⟩
  · intro parameters
    rw [← shown]
    rfl
  · intro parameters
    rw [← shown]
    rfl

open Explorer (controllerText overDirectories)

def savedCats : Explorer := (overDirectories [("w", controllerText "Cats" "@Get()a()\x7b\x7d")]).step .refresh

def renameCalls : List Call :=
  let edit (method path name : String) (version : Nat) : Call :=
    ⟨method, .object [("path", .string path), ("text", .string (controllerText name "@Get()a()\x7b\x7d")),
      ("version", .natural version)]⟩
  [edit "buffer_open" "./a.ts" "Dogs" 2, edit "buffer_update" "/w/../w//a.ts" "Birds" 4,
    edit "buffer_update" "a.ts/" "Fish" 3, edit "buffer_open" "b.ts" "Cows" 9]

theorem renameCalls_answered :
    savedCats.disk.Sound ∧
      Session.ofRoots savedCats.disk [⟨"/w/."⟩] ⟨["*.ts"], [], 300⟩ = .ok savedCats.session ∧
      let last := sessionAfterAll savedCats.disk savedCats.session renameCalls
      last.store.snapshot.controllers.map Controller.name = ["Birds"] ∧
        last.store.snapshot = last.index.scanFromScratch savedCats.disk ∧
        ∀ file ∈ last.index.files savedCats.disk, last.index.overlay.buffers.get? file =
          bufferAfter (means savedCats.disk last.index.roots file) none renameCalls := by
  have sound : savedCats.disk.Sound := by decide
  have opened : Session.ofRoots savedCats.disk [⟨"/w/."⟩] ⟨["*.ts"], [], 300⟩ = .ok savedCats.session := rfl
  obtain ⟨_, _, shown, _, _, _, edited⟩ := unsavedEdits_answered sound opened renameCalls
  exact ⟨sound, opened, by decide +kernel, shown, edited⟩

end RouteExplorer.Rpc
