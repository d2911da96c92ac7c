import RouteExplorer.Proofs.Index.WellFormed

namespace RouteExplorer.FileIndex

inductive Action where
  | load (disk : Disk) (path : FilePath) (fresh : Bool)
  | scan (disk : Disk)
  | invalidate (path : FilePath)
  | dispose
  | configure (config : Config)
  | edit (overlay : Overlay)

/-- An index after an action. Patterns with a flaw change nothing. -/
def act (index : FileIndex) : Action → FileIndex
  | .load disk path fresh => (index.controller? disk path fresh).2
  | .scan disk => (index.scan disk).2
  | .invalidate path => index.invalidate path
  | .dispose => index.dispose
  | .configure config => (index.setPatterns config).toOption.getD index
  | .edit overlay => { index with overlay := overlay }

def run (index : FileIndex) (actions : List Action) : FileIndex := actions.foldl act index

def Action.reads (file : FilePath) : Action → Bool
  | .load _ path _ => path.same file
  | .scan _ => true
  | _ => false

/-- Some controllers are known, each under the path of its file, and nothing else. -/
def KnowsExactly (index : FileIndex) (controllers : List Controller) : Prop :=
  ∀ path known, index.cache.get? path = some known ↔
    known ∈ controllers ∧ known.sourceFile.same path = true

variable {index : FileIndex} {disk : Disk}

theorem act_configure (index : FileIndex) (config : Config) :
    index.act (.configure config) = { index with
      patterns := (patternsOf config).toOption.getD index.patterns } := by
  cases read : patternsOf config <;>
    simp [act, setPatterns, read, Except.toOption, bind, Except.bind]

theorem step_act (index : FileIndex) (action : Action) : index.Step (index.act action) := by
  cases action with
  | load disk path fresh => exact .load index disk path fresh
  | scan disk => exact .scan index disk
  | invalidate path => exact .invalidate index path
  | dispose => exact .dispose index
  | configure config =>
    rw [act_configure]
    exact .configure index _
  | edit overlay => exact .edit index overlay

theorem Filed.run (filed : index.Filed) (actions : List Action) : (index.run actions).Filed := by
  induction actions generalizing index with
  | nil => exact filed
  | cons action rest ih => exact ih (filed.step (index.step_act action))

theorem filed_of_empty (unknown : index.cache = .empty) : index.Filed := by
  intro path known found
  rw [unknown] at found
  cases found

theorem known_of_act {file : FilePath} {known : Controller} {action : Action} (quiet : action.reads file = false)
    (found : (index.act action).cache.get? file = some known) : index.cache.get? file = some known := by
  cases action with
  | load disk path fresh =>
    have different : path.same file = false := quiet
    cases fresh with
    | false =>
      have asked := index.controller?_get? disk path file
      rw [different] at asked
      exact asked.symm.trans found
    | true =>
      have reloaded := index.reload_get? disk path file
      rw [different] at reloaded
      exact reloaded.symm.trans found
  | scan disk => cases quiet
  | invalidate path => exact (PathMap.get?_erase_eq_some.mp found).2
  | dispose => cases found
  | configure config =>
    rw [act_configure] at found
    exact found
  | edit overlay => exact found

theorem known_of_run {file : FilePath} {known : Controller} {actions : List Action}
    (quiet : ∀ action ∈ actions, action.reads file = false)
    (found : (index.run actions).cache.get? file = some known) : index.cache.get? file = some known := by
  induction actions generalizing index with
  | nil => exact found
  | cons action rest ih =>
    have later := ih (fun other member => quiet other (List.mem_cons_of_mem _ member)) found
    exact known_of_act (quiet action (by simp)) later

theorem scan_get?_of_listed {file path : FilePath} (listed : file ∈ index.files disk)
    (same : file.same path = true) : (index.scan disk).2.cache.get? path = index.taken? disk file := by
  have first : (index.files disk).find? (·.same path) = some file := by
    simp only [← FilePath.same_congr same]
    exact find?_same_of_mem (pairwise_distinctPaths _) listed
  rw [scan_find?, first]

theorem scan_get?_of_unlisted {path : FilePath} (unlisted : ∀ file ∈ index.files disk, file.same path = false) :
    (index.scan disk).2.cache.get? path = index.cache.get? path := by
  have none_same : (index.files disk).find? (·.same path) = none :=
    List.find?_eq_none.mpr fun file member => by simp [unlisted file member]
  rw [scan_find?, none_same]

/-- A listed file is known behind a scan by the controller that the scan has found for it. -/
theorem Filed.known_iff_found (filed : index.Filed) {file path : FilePath} (listed : file ∈ index.files disk)
    (same : file.same path = true) (known : Controller) :
    (index.scan disk).2.cache.get? path = some known ↔
      known ∈ (index.scan disk).1.controllers ∧ known.sourceFile.same path = true := by
  rw [scan_get?_of_listed listed same, mem_controllers_scan]
  constructor
  · intro taken
    exact ⟨⟨file, listed, taken⟩, FilePath.same_trans (filed.filedUnder_of_taken? taken).file same⟩
  · rintro ⟨⟨other, present, taken⟩, names⟩
    -- the controller names the file for which it was taken, and no file is listed twice
    have other_same : other.same path = true := by
      have names_other := (filed.filedUnder_of_taken? taken).file
      rw [FilePath.same_comm] at names_other
      exact FilePath.same_trans names_other names
    rw [← scan_get?_of_listed listed same, scan_get?_of_listed present other_same, taken]

/-- No controller that a scan finds names a path that the scan does not list. -/
theorem Filed.unnamed_of_unlisted (filed : index.Filed) {path : FilePath}
    (unlisted : ∀ file ∈ index.files disk, file.same path = false) :
    ∀ controller ∈ (index.scan disk).1.controllers, controller.sourceFile.same path = false := by
  intro controller found
  obtain ⟨file, listed, names⟩ := filed.listed_of_found found
  rw [FilePath.same_comm, FilePath.same_congr names, FilePath.same_comm]
  exact unlisted file listed

theorem KnowsExactly.unknown {controllers : List Controller} (exactly : index.KnowsExactly controllers)
    {path : FilePath} (unnamed : ∀ controller ∈ controllers, controller.sourceFile.same path = false) :
    index.cache.get? path = none := by
  by_contra found
  obtain ⟨controller, found⟩ := Option.ne_none_iff_exists'.mp found
  obtain ⟨member, names⟩ := (exactly path controller).mp found
  exact absurd names (by simp [unnamed controller member])

/-- Behind a scan exactly what it has found is known, if and only if it lists all that was known before. -/
theorem Filed.knowsExactly_iff (filed : index.Filed) (disk : Disk) :
    (index.scan disk).2.KnowsExactly (index.scan disk).1.controllers ↔
      ∀ path, index.cache.contains path = true → ∃ file ∈ index.files disk, file.same path = true := by
  constructor
  · intro exactly path contained
    by_contra absent
    have unlisted : ∀ file ∈ index.files disk, file.same path = false := by simpa using absent
    have unknown := exactly.unknown (filed.unnamed_of_unlisted unlisted)
    rw [scan_get?_of_unlisted unlisted] at unknown
    simp [PathMap.contains, unknown] at contained
  · intro covered path known
    by_cases listed : ∃ file ∈ index.files disk, file.same path = true
    · obtain ⟨file, member, same⟩ := listed
      exact filed.known_iff_found member same known
    · have unlisted : ∀ file ∈ index.files disk, file.same path = false := by simpa using listed
      have unknown : index.cache.get? path = none := by
        simpa [PathMap.contains] using fun contained => listed (covered path contained)
      rw [scan_get?_of_unlisted unlisted, unknown]
      constructor
      · rintro ⟨⟩
      · rintro ⟨shown, names⟩
        exact absurd names (by simp [filed.unnamed_of_unlisted unlisted known shown])

/-- A listed file of which nothing is known is found by what it reads. -/
theorem Filed.found_iff_parse? (filed : index.Filed) {file : FilePath} (listed : file ∈ index.files disk)
    (unknown : index.cache.get? file = none) (controller : Controller) :
    controller ∈ (index.scan disk).1.controllers ∧ controller.sourceFile.same file = true ↔
      index.parse? disk file = some controller := by
  rw [← filed.known_iff_found listed (FilePath.same_refl file), scan_get?_of_listed listed (FilePath.same_refl file),
    taken?, unknown, Option.none_or]

/-- After any run of an index, a scan knows all that it has found, and nothing else exactly when it lists every
path that was known before. Then a file that it does not list is described by its text at the scan that lists it
next, unless the file is read in between. -/
theorem knowsExactly_scan_iff {start : FileIndex} (unknown : start.cache = .empty) (actions : List Action)
    (disk : Disk) :
    let index := start.run actions
    let found := (index.scan disk).1.controllers
    let after := (index.scan disk).2
    (∀ controller ∈ found, after.cache.get? controller.sourceFile = some controller) ∧
      (after.KnowsExactly found ↔
        ∀ path, index.cache.contains path = true → ∃ file ∈ index.files disk, file.same path = true) ∧
      (after.KnowsExactly found → ∀ file quiet next,
        (∀ listed ∈ index.files disk, listed.same file = false) →
        (∀ action ∈ quiet, action.reads file = false) → file ∈ (after.run quiet).files next →
          ∀ controller, controller ∈ ((after.run quiet).scan next).1.controllers ∧
              controller.sourceFile.same file = true ↔
            (after.run quiet).parse? next file = some controller) := by
  intro index found after
  have filed : index.Filed := (filed_of_empty unknown).run actions
  refine ⟨?_, filed.knowsExactly_iff disk, ?_⟩
  · intro controller member
    obtain ⟨file, listed, taken⟩ := mem_controllers_scan.mp member
    have names := (filed.filedUnder_of_taken? taken).file
    rw [FilePath.same_comm] at names
    exact (scan_get?_of_listed listed names).trans taken
  · intro exactly file quiet next unlisted unread listed controller
    have absent : (after.run quiet).cache.get? file = none := by
      by_contra known
      obtain ⟨other, known⟩ := Option.ne_none_iff_exists'.mp known
      have earlier := known_of_run unread known
      rw [exactly.unknown (filed.unnamed_of_unlisted unlisted)] at earlier
      cases earlier
    exact ((filed.scan disk).run quiet).found_iff_parse? listed absent controller

open Explorer (controllerText diskOf overDirectories)

def catsDisk : Disk := diskOf [("w", controllerText "Cats" "")]

def dogsDisk : Disk := diskOf [("w", controllerText "Dogs" "")]

def bareDisk : Disk := ⟨[], [(["w"], .directory)]⟩

def emptyIndex : FileIndex := (overDirectories [("w", "")]).session.index

/-- Where the index has forgotten the file before the scan that misses it, the file is read when it is back. -/
theorem forgotten_read_again :
    let index := emptyIndex.run [.scan catsDisk, .invalidate ⟨"/w/a.ts"⟩]
    let after := (index.scan bareDisk).2
    emptyIndex.cache = .empty ∧
      after.KnowsExactly (index.scan bareDisk).1.controllers ∧
      (∀ controller, controller ∈ ((after.run []).scan dogsDisk).1.controllers ∧
          controller.sourceFile.same ⟨"/w/a.ts"⟩ = true ↔
        (after.run []).parse? dogsDisk ⟨"/w/a.ts"⟩ = some controller) ∧
      (after.parse? dogsDisk ⟨"/w/a.ts"⟩).map Controller.name = some "Dogs" := by
  intro index after
  obtain ⟨_, exactly_iff, returns⟩ :=
    knowsExactly_scan_iff (rfl : emptyIndex.cache = .empty) [.scan catsDisk, .invalidate ⟨"/w/a.ts"⟩] bareDisk
  have forgotten : index.cache.entries = [] := by
    have none_left : index.cache.entries.length = 0 := by decide +kernel
    exact List.length_eq_zero_iff.mp none_left
  have exactly := exactly_iff.mpr fun path known => by
    simp [PathMap.contains, PathMap.get?, forgotten, index] at known
  have missed : ∀ listed ∈ index.files bareDisk, listed.same ⟨"/w/a.ts"⟩ = false := by decide +kernel
  have back : (⟨"/w/a.ts"⟩ : FilePath) ∈ (after.run []).files dogsDisk := by decide +kernel
  exact ⟨rfl, exactly, returns exactly ⟨"/w/a.ts"⟩ [] dogsDisk missed (by simp) back, by decide +kernel⟩

/-- A scan that misses a known file leaves it known, and the next one that lists it shows the text that is gone. -/
theorem missing_resurrected :
    let index := emptyIndex.run [.scan catsDisk]
    let after := (index.scan bareDisk).2
    (index.scan bareDisk).1.controllers.map Controller.name = [] ∧
      ¬after.KnowsExactly (index.scan bareDisk).1.controllers ∧
      (after.scan dogsDisk).1.controllers.map Controller.name = ["Cats"] ∧
      (after.parse? dogsDisk ⟨"/w/a.ts"⟩).map Controller.name = some "Dogs" := by
  intro index after
  have missing : (index.scan bareDisk).1.controllers = [] := by
    have found : (index.scan bareDisk).1.controllers.length = 0 := by decide +kernel
    exact List.length_eq_zero_iff.mp found
  have leftover : (after.cache.get? ⟨"/w/a.ts"⟩).isSome = true := by decide +kernel
  refine ⟨by rw [missing]; rfl, ?_, by decide +kernel, by decide +kernel⟩
  intro exactly
  obtain ⟨known, found⟩ := Option.isSome_iff_exists.mp leftover
  have shown := ((exactly ⟨"/w/a.ts"⟩ known).mp found).1
  rw [missing] at shown
  cases shown

end RouteExplorer.FileIndex
