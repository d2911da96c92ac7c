import RouteExplorer.Proofs.Change.FileSteps
import RouteExplorer.Proofs.Workspace.DirectoryMove

/-!
Directory moves against file events. An event that names the directory only shows its files where they
are now exactly when the session takes notice of it, and that depends on whether the patterns select
the path of the directory itself.
-/
namespace RouteExplorer

/-- An event that tells of a move by paths that name the directory and nothing else. -/
inductive DirectoryMove.Describes (disk : Disk) (move : DirectoryMove) : FileEvent → Prop where
  | renameFrom {path : FilePath} (leaves : disk.target path = move.source) :
    Describes disk move ⟨.renamedFrom, [path]⟩
  | renameTo {path : FilePath} (arrives : disk.target path = move.target) :
    Describes disk move ⟨.renamedTo, [path]⟩
  | renameBoth {old new : FilePath} (leaves : disk.target old = move.source)
    (arrives : disk.target new = move.target) : Describes disk move ⟨.renamedBoth, [old, new]⟩

namespace Session

/-- No shown controller belongs to a file that is gone, and all are shown that a scan from scratch
finds. -/
structure Tracks (session : Session) (disk : Disk) : Prop where
  present : ∀ controller ∈ session.store.snapshot.controllers, disk.pathExists controller.sourceFile = true
  complete : ∀ controller ∈ (session.index.scanFromScratch disk).controllers,
    controller ∈ session.store.snapshot.controllers

/-- A session takes notice of an event: it brings a configuration with patterns that can be used, or it
names a path that the patterns select. -/
def Notices (session : Session) (disk : Disk) (environment : Environment) (source : ConfigSource)
    (event : FileEvent) : Prop :=
  if event.paths.any source.contains then
    ∃ config patterns, source.load disk environment = .ok config ∧
      FileIndex.patternsOf config = .ok patterns
  else ∃ path ∈ event.paths, session.isEligible path = true

variable {session : Session} {disk : Disk} {move : DirectoryMove} {event : FileEvent}
  {environment : Environment} {source : ConfigSource}

theorem absorbAll_fst_iff_notices (describes : move.Describes disk event) (after : Disk) :
    (session.absorbAll (event.changes after environment source)).1 = true ↔
      session.Notices after environment source event := by
  rw [absorbAll_fst]
  unfold FileEvent.changes Notices
  split
  · cases loaded : source.load after environment with
    | error flaw => simp
    | ok config =>
      cases read : FileIndex.patternsOf config <;>
        simp [ChangeEvent.resets, ChangeEvent.patterns?, ChangeEvent.file?, read, Except.toOption]
  · cases describes <;>
      simp [FileEvent.fileChanges, ChangeEvent.resets, ChangeEvent.patterns?, ChangeEvent.file?]

/-- A refresh that finds what a scan from scratch finds tracks the disk. -/
theorem tracks_refresh (sound : disk.Sound)
    (agrees : (session.index.scan disk).1 = session.index.scanFromScratch disk) :
    (session.refresh disk).2.Tracks disk where
  present := by
    intro controller shown
    rw [refresh_snapshot, agrees, FileIndex.scanFromScratch_eq] at shown
    obtain ⟨path, member, parsed⟩ := List.mem_filterMap.mp shown
    obtain ⟨place, _, leads, _⟩ := sound.resolve?_listed member
    rw [FileIndex.parse?_sourceFile parsed]
    simp [Disk.pathExists, leads]
  complete := by
    intro controller found
    rw [refresh_index, FileIndex.scanFromScratch_scan] at found
    rwa [refresh_snapshot, agrees]

/-- What was known before a move still holds of the files that are listed after it. -/
private theorem parse?_after_move {index : FileIndex} (sound : disk.Sound) (possible : move.Possible disk)
    (current : index.Current disk) {path : FilePath} {known : Controller}
    (member : path ∈ index.files (move.apply disk)) (found : index.cache.get? path = some known) :
    index.parse? (move.apply disk) path = some known := by
  have after_sound := possible.sound sound
  have listed := FileIndex.lists_of_mem_files after_sound member
  have parsed := (current path known listed found).resolve_left id
  obtain ⟨place, _, leads, _⟩ := after_sound.resolve?_listed member
  have there : (move.apply disk).pathExists path = true := by simp [Disk.pathExists, leads]
  exact FileIndex.parse?_of_kept parsed fun _ showed => possible.read?_eq sound showed there

/-- After the changes of a move have been taken in, a scan of the new disk finds what one from scratch
finds. -/
private theorem scan_absorbed_move (sound : disk.Sound) (possible : move.Possible disk)
    (current : session.index.Current disk) (events : List ChangeEvent) :
    ((session.absorbed events).index.scan (move.apply disk)).1 =
      (session.absorbed events).index.scanFromScratch (move.apply disk) := by
  apply FileIndex.scan_eq_scratch
  intro path member known found
  rw [absorbed_get?] at found
  split at found
  · simp at found
  · next silent =>
    have stays : ∀ event ∈ events, event.resets = false := by
      intro event present
      apply Bool.eq_false_iff.mpr
      intro resets
      exact silent (List.any_eq_true.mpr ⟨event, present, by simp [resets]⟩)
    obtain ⟨cache, frame⟩ := session.absorbed_frame events
    rw [ChangeEvent.lastPatterns?_of_not_resets stays] at frame
    rw [frame] at member ⊢
    have parsed : session.index.parse? (move.apply disk) path = some known :=
      parse?_after_move sound possible current member found
    exact parsed

/-- Changes that do not concern a session leave what it shows and what it would find. -/
private theorem tracks_absorbed_iff {events : List ChangeEvent}
    (unconcerned : (session.absorbAll events).1 = false) (after : Disk) :
    (session.absorbed events).Tracks after ↔ session.Tracks after := by
  rw [absorbAll_fst] at unconcerned
  have stays : ∀ event ∈ events, event.resets = false := by
    intro event present
    have quiet := List.any_eq_false.mp unconcerned event present
    simp only [Bool.or_eq_true, not_or] at quiet
    simpa using quiet.1
  obtain ⟨cache, frame⟩ := session.absorbed_frame events
  rw [ChangeEvent.lastPatterns?_of_not_resets stays] at frame
  rw [frame]
  constructor
  · exact fun tracks => ⟨tracks.present, tracks.complete⟩
  · exact fun tracks => ⟨tracks.present, tracks.complete⟩

/-- After the event of a directory move no controller of a lost file is shown and none is missing, exactly
when the session takes notice of the event or was right about the new disk already. -/
theorem applyBatch_directoryMove_iff (sound : disk.Sound) (possible : move.Possible disk)
    (describes : move.Describes disk event) (current : session.index.Current disk)
    {environment : Environment} {source : ConfigSource} :
    (session.applyBatch (move.apply disk)
        (event.changes (move.apply disk) environment source)).2.Tracks (move.apply disk) ↔
      session.Notices (move.apply disk) environment source event ∨ session.Tracks (move.apply disk) := by
  rw [← absorbAll_fst_iff_notices describes, applyBatch_eq]
  split
  · next concerned =>
    have tracks := tracks_refresh (possible.sound sound) (scan_absorbed_move sound possible current
      (event.changes (move.apply disk) environment source))
    exact iff_of_true tracks (.inl concerned)
  · next unconcerned =>
    rw [tracks_absorbed_iff (by simpa using unconcerned)]
    exact ⟨.inr, fun either => either.resolve_left unconcerned⟩

open Explorer (controllerText)

def catsDisk : Disk :=
  ⟨[], [(["w"], .directory), (["w", "v"], .directory), (["w", "v", "a.ts"], .text (controllerText "Cats" ""))]⟩

theorem sound_catsDisk : catsDisk.Sound := by decide

/-- The session over the workspace that looks for some patterns, after its first refresh. -/
def catsBelow (includes : List String) : Explorer :=
  let patterns := (Glob.PatternSet.parse includes []).toOption.getD ⟨[], [], []⟩
  Explorer.step ⟨catsDisk, .ofStore (.ofIndex ⟨[⟨"/w"⟩], patterns, .empty, .empty⟩)⟩ .refresh

theorem current_catsBelow (includes : List String) :
    (catsBelow includes).session.index.Current catsDisk :=
  Explorer.Fresh.current_refresh ⟨sound_catsDisk, rfl, rfl⟩

def catsMove : DirectoryMove := ⟨["w", "v"], ["w", "u"]⟩

theorem possible_catsMove : catsMove.Possible catsDisk :=
  ⟨by decide, by decide +kernel, ⟨by decide, by decide, by decide +kernel⟩, by decide, by decide⟩

/-- The pattern `**` selects directories as well as files. -/
theorem catsMove_tracked :
    catsMove.Possible catsDisk ∧
      catsMove.Describes catsDisk ⟨.renamedBoth, [⟨"/w/v"⟩, ⟨"/w/u"⟩]⟩ ∧
      ((catsBelow ["**"]).session.applyBatch (catsMove.apply catsDisk)
          (FileEvent.changes ⟨.renamedBoth, [⟨"/w/v"⟩, ⟨"/w/u"⟩]⟩ (catsMove.apply catsDisk)
            .empty ⟨⟨"/w"⟩, none⟩)).2.Tracks (catsMove.apply catsDisk) := by
  have describes : catsMove.Describes catsDisk ⟨.renamedBoth, [⟨"/w/v"⟩, ⟨"/w/u"⟩]⟩ :=
    .renameBoth rfl rfl
  refine ⟨possible_catsMove, describes, (applyBatch_directoryMove_iff sound_catsDisk possible_catsMove
    describes (current_catsBelow ["**"])).mpr (.inl ?_)⟩
  have no_config : [⟨"/w/v"⟩, ⟨"/w/u"⟩].any (ConfigSource.contains ⟨⟨"/w"⟩, none⟩) = false := by
    decide +kernel
  rw [Notices, if_neg (by simp [no_config])]
  exact ⟨⟨"/w/v"⟩, by simp, by decide +kernel⟩

/-- A session that looks for scripts still shows the controller where it was. -/
theorem catsMove_not_tracked :
    catsDisk.Sound ∧ catsMove.Possible catsDisk ∧
      catsMove.Describes catsDisk ⟨.renamedBoth, [⟨"/w/v"⟩, ⟨"/w/u"⟩]⟩ ∧
      (catsBelow ["**/*.ts"]).session.index.Current catsDisk ∧
      ¬((catsBelow ["**/*.ts"]).session.applyBatch (catsMove.apply catsDisk)
          (FileEvent.changes ⟨.renamedBoth, [⟨"/w/v"⟩, ⟨"/w/u"⟩]⟩ (catsMove.apply catsDisk)
            .empty ⟨⟨"/w"⟩, none⟩)).2.Tracks (catsMove.apply catsDisk) := by
  refine ⟨sound_catsDisk, possible_catsMove, .renameBoth rfl rfl, current_catsBelow ["**/*.ts"], ?_⟩
  intro tracks
  have gone : ∃ controller ∈ ((catsBelow ["**/*.ts"]).session.applyBatch (catsMove.apply catsDisk)
      (FileEvent.changes ⟨.renamedBoth, [⟨"/w/v"⟩, ⟨"/w/u"⟩]⟩ (catsMove.apply catsDisk)
        .empty ⟨⟨"/w"⟩, none⟩)).2.store.snapshot.controllers,
      (catsMove.apply catsDisk).pathExists controller.sourceFile = false := by
    decide +kernel
  obtain ⟨controller, shown, missing⟩ := gone
  rw [tracks.present controller shown] at missing
  cases missing

end Session

end RouteExplorer
