import RouteExplorer.Change.FileEvent
import RouteExplorer.Proofs.Session.Run
import RouteExplorer.Proofs.Workspace.FileStep

namespace RouteExplorer

/-- An event that tells of a step by paths that name its places. -/
inductive FileStep.Describes (disk : Disk) : FileStep → FileEvent → Prop where
  | create {place : Place} {file : DiskEntry} {path : FilePath} (named : disk.target path = place) :
    Describes disk (.create place file) ⟨.created, [path]⟩
  | rewrite {place : Place} {file : DiskEntry} {path : FilePath} (named : disk.target path = place) :
    Describes disk (.rewrite place file) ⟨.modified, [path]⟩
  | remove {place : Place} {path : FilePath} (named : disk.target path = place) :
    Describes disk (.remove place) ⟨.removed, [path]⟩
  | renameFrom {source target : Place} {path : FilePath} (named : disk.target path = source) :
    Describes disk (.rename source target) ⟨.renamedFrom, [path]⟩
  | renameTo {source target : Place} {path : FilePath} (named : disk.target path = target) :
    Describes disk (.rename source target) ⟨.renamedTo, [path]⟩
  | renameBoth {source target : Place} {old new : FilePath} (leaves : disk.target old = source)
    (arrives : disk.target new = target) :
    Describes disk (.rename source target) ⟨.renamedBoth, [old, new]⟩

variable {disk : Disk} {step : FileStep} {event : FileEvent}

theorem FileStep.Describes.fileChanges (describes : step.Describes disk event) (after : Disk) :
    event.fileChanges after ≠ [] ∧ ∀ change ∈ event.fileChanges after,
      change.resets = false ∧ ∃ path ∈ event.paths, change.file? = some path := by
  cases describes <;>
    simp [FileEvent.fileChanges, ChangeEvent.resets, ChangeEvent.patterns?, ChangeEvent.file?]

namespace FileIndex

/-- What was known before a step still holds of listed files, but for the one that is written over. -/
theorem Current.parse?_after {index : FileIndex} (sound : disk.Sound) (possible : step.Possible disk)
    (current : index.Current disk) {path : FilePath} {known : Controller}
    (member : path ∈ index.files (step.apply disk)) (found : index.cache.get? path = some known) :
    index.parse? (step.apply disk) path = some known ∨
      (step.apply disk).resolve? path = step.overwritten? disk := by
  have kept := FileStep.kept_of_possible sound possible
  have listed := lists_of_mem_files kept.sound member
  have parsed := (current path known listed found).resolve_left id
  obtain ⟨place, entry, leads, lies, _⟩ := kept.sound.resolve?_listed member
  have there := kept.sound.entry?_of_mem lies
  rcases kept.entries place entry there with same | nothing | written
  · have read := kept.same.read?_eq leads (same.trans there.symm)
    exact .inl (parse?_of_kept parsed fun _ showed => read ▸ showed)
  · have absent : disk.read? path = none := by
      simp [Disk.read?, kept.same.entryOf? leads, nothing]
    exact .inl (parse?_of_kept parsed fun _ showed => by simp [absent] at showed)
  · exact .inr (leads.trans written.symm)

end FileIndex

namespace Session

variable {session : Session}

/-- Events about files show what a scan from scratch finds exactly when they name every listed file
that is known wrongly. -/
theorem applyBatch_eq_scratch_iff (sound : disk.Sound) {events : List ChangeEvent}
    (stays : ∀ change ∈ events, change.resets = false)
    (concerned : (session.absorbAll events).1 = true)
    (filed : ∀ path ∈ session.index.files disk, ∀ known, session.index.cache.get? path = some known →
      known.sourceFile = path) :
    (session.applyBatch disk events).2.store.snapshot = session.index.scanFromScratch disk ↔
      ∀ path ∈ session.index.files disk, ∀ known, session.index.cache.get? path = some known →
        events.any (·.names path) = true ∨ session.index.parse? disk path = some known := by
  obtain ⟨cache, frame⟩ := session.absorbed_frame events
  rw [ChangeEvent.lastPatterns?_of_not_resets stays] at frame
  have index : (session.absorbed events).index = { session.index with cache := cache } := by
    rw [frame]
    rfl
  have remains {path : FilePath} (member : path ∈ session.index.files disk) :
      cache.get? path =
        if events.any (·.names path) then none else session.index.cache.get? path := by
    have eligible : session.isEligible path = true :=
      FileIndex.isEligible_of_lists (FileIndex.lists_of_mem_files sound member)
    have known := session.absorbed_get? events path
    have told : (events.any fun event => event.resets || (event.names path && session.isEligible path)) =
        events.any (·.names path) := by
      rw [Bool.eq_iff_iff, List.any_eq_true, List.any_eq_true]
      refine exists_congr fun change => and_congr_right fun present => ?_
      rw [stays change present, eligible, Bool.false_or, Bool.and_true]
    rw [told, index] at known
    exact known
  rw [applyBatch_eq, if_pos concerned, refresh_snapshot, index]
  have still_filed : ∀ path ∈ session.index.files disk, ∀ known, cache.get? path = some known →
      known.sourceFile = path := by
    intro path member known found
    rw [remains member] at found
    split at found
    · simp at found
    · exact filed path member known found
  refine (FileIndex.scan_eq_scratch_iff still_filed).trans (forall₂_congr fun path member => forall_congr' fun known => ?_)
  change (cache.get? path = some known → session.index.parse? disk path = some known) ↔ _
  rw [remains member]
  cases events.any (·.names path) <;> simp

/-- Applying the event of a step on one file shows what a scan of the new disk from scratch finds, exactly
when each known file that the step has written over is named as deleted or saved, or has the controller
that it had. -/
theorem applyBatch_fileStep_iff (sound : disk.Sound) (possible : step.Possible disk)
    (describes : step.Describes disk event) {environment : Environment} {source : ConfigSource}
    (no_config : event.paths.any source.contains = false)
    (eligible : ∀ path ∈ event.paths, session.isEligible path = true)
    (current : session.index.Current disk) :
    (session.applyBatch (step.apply disk)
        (event.changes (step.apply disk) environment source)).2.store.snapshot =
      session.index.scanFromScratch (step.apply disk) ↔
    ∀ path ∈ session.index.files (step.apply disk), ∀ known, session.index.cache.get? path = some known →
      (step.apply disk).resolve? path = step.overwritten? disk →
        (event.fileChanges (step.apply disk)).any (·.names path) = true ∨
          session.index.parse? (step.apply disk) path = some known := by
  have after_sound := (FileStep.kept_of_possible sound possible).sound
  have changes : event.changes (step.apply disk) environment source = event.fileChanges (step.apply disk) := by
    simp [FileEvent.changes, no_config]
  rw [changes]
  obtain ⟨nonempty, told⟩ := describes.fileChanges (step.apply disk)
  have stays : ∀ change ∈ event.fileChanges (step.apply disk), change.resets = false :=
    fun change member => (told change member).1
  have concerned : (session.absorbAll (event.fileChanges (step.apply disk))).1 = true := by
    obtain ⟨change, member⟩ := List.exists_mem_of_ne_nil _ nonempty
    obtain ⟨path, named, about⟩ := (told change member).2
    rw [absorbAll_fst]
    exact List.any_eq_true.mpr ⟨change, member, by simp [about, eligible path named]⟩
  have filed : ∀ path ∈ session.index.files (step.apply disk), ∀ known,
      session.index.cache.get? path = some known → known.sourceFile = path := by
    intro path member known found
    have listed := FileIndex.lists_of_mem_files after_sound member
    exact FileIndex.parse?_sourceFile ((current path known listed found).resolve_left id)
  rw [applyBatch_eq_scratch_iff after_sound stays concerned filed]
  refine forall₂_congr fun path member => forall₂_congr fun known found => ?_
  rcases FileIndex.Current.parse?_after sound possible current member found with parsed | written
  · simp [parsed]
  · simp [written]

open Explorer (controllerText overDirectories fresh_overDirectories)

def cats : Explorer := (overDirectories [("w", controllerText "Cats" "")]).step .refresh

def rewriteCats : FileStep := .rewrite ["w", "a.ts"] (.text (controllerText "Lions" ""))

theorem rewriteCats_shown :
    rewriteCats.Possible cats.disk ∧
      (cats.session.applyBatch (rewriteCats.apply cats.disk)
          (FileEvent.changes ⟨.modified, [⟨"/w/a.ts"⟩]⟩ (rewriteCats.apply cats.disk) .empty
            ⟨⟨"/w"⟩, none⟩)).2.store.snapshot =
        cats.session.index.scanFromScratch (rewriteCats.apply cats.disk) := by
  have current : cats.session.index.Current cats.disk := (fresh_overDirectories (by decide)).current_refresh
  have possible : rewriteCats.Possible cats.disk := ⟨by decide, _, rfl, by decide⟩
  have told : ∀ path ∈ cats.session.index.files (rewriteCats.apply cats.disk),
      (FileEvent.fileChanges ⟨.modified, [⟨"/w/a.ts"⟩]⟩ (rewriteCats.apply cats.disk)).any
        (·.names path) = true := by
    decide +kernel
  refine ⟨possible, (applyBatch_fileStep_iff (by decide) possible (.rewrite rfl) (by decide +kernel)
    (by decide +kernel) current).mpr ?_⟩
  exact fun path member known found written => .inl (told path member)

def catsAndDogs : Explorer :=
  (overDirectories [("v", controllerText "Dogs" ""),
    ("w", controllerText "Cats" "")]).step .refresh

def dogsOverCats : FileStep := .rename ["v", "a.ts"] ["w", "a.ts"]

/-- The session still shows the cats, although their file holds the dogs. -/
theorem dogsOverCats_not_shown :
    dogsOverCats.Possible catsAndDogs.disk ∧
      dogsOverCats.Describes catsAndDogs.disk ⟨.renamedBoth, [⟨"/v/a.ts"⟩, ⟨"/w/a.ts"⟩]⟩ ∧
      [⟨"/v/a.ts"⟩, ⟨"/w/a.ts"⟩].any (ConfigSource.contains ⟨⟨"/w"⟩, none⟩) = false ∧
      (∀ path ∈ [⟨"/v/a.ts"⟩, ⟨"/w/a.ts"⟩], catsAndDogs.session.isEligible path = true) ∧
      catsAndDogs.session.index.Current catsAndDogs.disk ∧
      (catsAndDogs.session.applyBatch (dogsOverCats.apply catsAndDogs.disk)
          (FileEvent.changes ⟨.renamedBoth, [⟨"/v/a.ts"⟩, ⟨"/w/a.ts"⟩]⟩ (dogsOverCats.apply catsAndDogs.disk)
            .empty ⟨⟨"/w"⟩, none⟩)).2.store.snapshot ≠
        catsAndDogs.session.index.scanFromScratch (dogsOverCats.apply catsAndDogs.disk) := by
  have current : catsAndDogs.session.index.Current catsAndDogs.disk :=
    (fresh_overDirectories (by decide)).current_refresh
  refine ⟨⟨⟨_, rfl, by decide⟩, ⟨by decide, by decide, by decide⟩, by decide⟩, .renameBoth rfl rfl,
    by decide +kernel, by decide +kernel, current, ?_⟩
  decide +kernel

end Session

end RouteExplorer
