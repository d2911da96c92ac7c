import Mathlib.Data.List.Basic
import RouteExplorer.Index.FileIndex
import RouteExplorer.Proofs.Index.Listing
import RouteExplorer.Proofs.Route.Ownership
import RouteExplorer.Proofs.Workspace.PathMap

namespace RouteExplorer.FileIndex

def files (index : FileIndex) (disk : Disk) : List FilePath :=
  scanRoots disk index.patterns index.roots

/-- What a new index over the same roots, patterns and buffers finds. -/
def scanFromScratch (index : FileIndex) (disk : Disk) : Snapshot :=
  (scan ⟨index.roots, index.patterns, index.overlay, .empty⟩ disk).1

/-- Scans list a path in this spelling, if there is such a file. -/
def Lists (index : FileIndex) (path : FilePath) : Prop :=
  spelling? index.patterns index.roots path = some path

/-- Whatever is known of a file that scans may list is what would be read now, but for some files. -/
def CurrentExcept (index : FileIndex) (disk : Disk) (exempt : FilePath → Prop) : Prop :=
  ∀ path known, index.Lists path → index.cache.get? path = some known →
    exempt path ∨ index.parse? disk path = some known

/-- Whatever is known of a file that scans may list is what would be read now. -/
def Current (index : FileIndex) (disk : Disk) : Prop := index.CurrentExcept disk fun _ => False

theorem Current.currentExcept {index : FileIndex} {disk : Disk} (current : index.Current disk)
    (exempt : FilePath → Prop) : index.CurrentExcept disk exempt :=
  fun path known listed found => (current path known listed found).imp False.elim id

/-- What a scan takes for the controller of a file. -/
def taken? (index : FileIndex) (disk : Disk) (path : FilePath) : Option Controller :=
  (index.cache.get? path).or (index.parse? disk path)

variable {index : FileIndex} {disk : Disk}

theorem lists_of_mem_files (sound : disk.Sound) {path : FilePath} (member : path ∈ index.files disk) :
    index.Lists path :=
  spelling?_of_mem_scanRoots sound member

theorem Lists.eq_of_same {left right : FilePath} (listed : index.Lists left)
    (other : index.Lists right) (same : left.same right = true) : left = right := by
  have spells := spelling?_congr index.patterns index.roots same
  rw [listed, other] at spells
  exact Option.some.inj spells

theorem isEligible_of_lists {path : FilePath} (listed : index.Lists path) :
    index.isEligible path = true :=
  isEligible_of_spelling? listed

theorem parse?_sourceFile {path : FilePath} {found : Controller}
    (parsed : index.parse? disk path = some found) : found.sourceFile = path := by
  obtain ⟨text, _, parses⟩ := Option.bind_eq_some_iff.mp parsed
  exact (Controller.coherent_of_ofText? parses).1

theorem parse?_of_kept {after : Disk} {path : FilePath} {found : Controller}
    (parsed : index.parse? disk path = some found)
    (kept : ∀ text, disk.read? path = some text → after.read? path = some text) :
    index.parse? after path = some found := by
  obtain ⟨text, shown, parses⟩ := Option.bind_eq_some_iff.mp parsed
  refine Option.bind_eq_some_iff.mpr ⟨text, ?_, parses⟩
  unfold Overlay.read? at shown ⊢
  split at shown
  · exact shown
  · exact kept text shown

theorem controller?_frame (index : FileIndex) (disk : Disk) (path : FilePath) :
    ∃ cache, (index.controller? disk path false).2 = { index with cache := cache } := by
  unfold controller? reload
  split
  · exact ⟨index.cache, rfl⟩
  · split <;> exact ⟨_, rfl⟩

theorem controller?_fst (index : FileIndex) (disk : Disk) (path : FilePath) :
    (index.controller? disk path false).1 = index.taken? disk path := by
  unfold controller? reload taken?
  cases known : index.cache.get? path with
  | some controller => simp
  | none => cases index.parse? disk path <;> simp

theorem reload_get? (index : FileIndex) (disk : Disk) (path other : FilePath) :
    (index.reload disk path).2.cache.get? other =
      if path.same other then index.parse? disk path else index.cache.get? other := by
  unfold reload
  cases index.parse? disk path with
  | none => simp [invalidate, PathMap.get?_erase]
  | some controller =>
    by_cases same : path.same other = true <;>
      simp [invalidate, PathMap.get?_insert, PathMap.get?_erase, same]

theorem controller?_get? (index : FileIndex) (disk : Disk) (path other : FilePath) :
    (index.controller? disk path false).2.cache.get? other =
      if path.same other then index.taken? disk path else index.cache.get? other := by
  unfold controller? taken?
  cases known : index.cache.get? path with
  | some controller =>
    by_cases same : path.same other = true
    · simp [same, ← index.cache.get?_congr same, known]
    · simp [same]
  | none => simp [reload_get?]

private theorem controllersOf_frame (index : FileIndex) (disk : Disk) (paths : List FilePath) :
    ∃ cache, (index.controllersOf disk paths).2 = { index with cache := cache } := by
  induction paths generalizing index with
  | nil => exact ⟨index.cache, rfl⟩
  | cons path rest ih =>
    obtain ⟨first, asked⟩ := index.controller?_frame disk path
    obtain ⟨last, done⟩ := ih (index.controller? disk path false).2
    refine ⟨last, ?_⟩
    rw [asked] at done
    simpa [controllersOf, asked] using done

/-- What is taken for a file does not depend on other files that were asked for before. -/
private theorem taken?_controller? (index : FileIndex) (disk : Disk) {path other : FilePath}
    (different : path.same other = false) :
    (index.controller? disk path false).2.taken? disk other = index.taken? disk other := by
  have kept := index.controller?_get? disk path other
  obtain ⟨cache, asked⟩ := index.controller?_frame disk path
  rw [different] at kept
  rw [asked] at kept ⊢
  simp only [Bool.false_eq_true, ↓reduceIte] at kept
  simp [taken?, kept, parse?]

private theorem controllersOf_fst (index : FileIndex) (disk : Disk) {paths : List FilePath}
    (distinct : paths.Pairwise fun left right => left.same right = false) :
    (index.controllersOf disk paths).1 = paths.filterMap (index.taken? disk) := by
  induction paths generalizing index with
  | nil => rfl
  | cons path rest ih =>
    obtain ⟨apart, later⟩ := List.pairwise_cons.mp distinct
    have others : rest.filterMap ((index.controller? disk path false).2.taken? disk) =
        rest.filterMap (index.taken? disk) :=
      List.filterMap_congr fun other member => index.taken?_controller? disk (apart other member)
    simp only [controllersOf, ih _ later, others, controller?_fst]
    cases taken : index.taken? disk path <;> simp [taken]

private theorem controllersOf_get? (index : FileIndex) (disk : Disk) {paths : List FilePath}
    (distinct : paths.Pairwise fun left right => left.same right = false) (other : FilePath) :
    (index.controllersOf disk paths).2.cache.get? other =
      match paths.find? (·.same other) with
      | some path => index.taken? disk path
      | none => index.cache.get? other := by
  induction paths generalizing index with
  | nil => rfl
  | cons path rest ih =>
    obtain ⟨apart, later⟩ := List.pairwise_cons.mp distinct
    simp only [controllersOf, ih _ later, controller?_get?]
    by_cases same : path.same other = true
    · have unseen : rest.find? (·.same other) = none := by
        apply List.find?_eq_none.mpr
        intro next member found
        rw [FilePath.same_comm] at found
        exact absurd (FilePath.same_trans same found) (by simp [apart next member])
      simp [same, unseen]
    · cases found : rest.find? (·.same other) with
      | none => simp [same, found]
      | some next =>
        have member := List.mem_of_find?_eq_some found
        simp [same, found, index.taken?_controller? disk (apart next member)]

theorem scan_frame (index : FileIndex) (disk : Disk) :
    ∃ cache, (index.scan disk).2 = { index with cache := cache } :=
  index.controllersOf_frame disk (index.files disk)

theorem scan_fst (index : FileIndex) (disk : Disk) :
    (index.scan disk).1 = .ofControllers ((index.files disk).filterMap (index.taken? disk)) := by
  have found : (index.controllersOf disk (index.files disk)).1 = _ :=
    index.controllersOf_fst disk (pairwise_distinctPaths _)
  exact congrArg Snapshot.ofControllers found

theorem mem_controllers_scan {controller : Controller} :
    controller ∈ (index.scan disk).1.controllers ↔
      ∃ file ∈ index.files disk, index.taken? disk file = some controller := by
  rw [scan_fst]
  exact List.mem_filterMap

theorem scanFromScratch_eq (index : FileIndex) (disk : Disk) :
    index.scanFromScratch disk =
      .ofControllers ((index.files disk).filterMap (index.parse? disk)) := by
  rw [scanFromScratch, scan_fst]
  rfl

/-- Over roots that are as a new index would have them, a scan from scratch is the first scan of a new index with the
same buffers. -/
theorem scanFromScratch_eq_ofConfig {config : Config} (canonical : ∀ root ∈ index.roots, disk.canonical root = root)
    (accepted : patternsOf config = .ok index.patterns) :
    ∃ made, ofConfig disk index.roots config = .ok made ∧
      index.scanFromScratch disk = (scan { made with overlay := index.overlay } disk).1 := by
  have roots : index.roots.map disk.canonical = index.roots :=
    (List.map_congr_left canonical).trans (List.map_id' _)
  refine ⟨⟨index.roots, index.patterns, .empty, .empty⟩, ?_, rfl⟩
  rw [ofConfig, accepted, roots]
  rfl

theorem scan_find? (index : FileIndex) (disk : Disk) (path : FilePath) :
    (index.scan disk).2.cache.get? path =
      match (index.files disk).find? (·.same path) with
      | some other => index.taken? disk other
      | none => index.cache.get? path :=
  index.controllersOf_get? disk (pairwise_distinctPaths _) path

/-- What a scan reads for a path that it lists, whatever is known. -/
def reads? (index : FileIndex) (disk : Disk) (path : FilePath) : Option Controller :=
  ((index.files disk).find? (·.same path)).bind (index.parse? disk)

theorem scan_get?_eq_or (index : FileIndex) (disk : Disk) (path : FilePath) :
    (index.scan disk).2.cache.get? path = (index.cache.get? path).or (index.reads? disk path) := by
  rw [scan_find?, reads?]
  cases first : (index.files disk).find? (·.same path) with
  | none => simp
  | some other =>
    have same : other.same path = true := by simpa using List.find?_some first
    simp only [Option.bind_some, taken?, index.cache.get?_congr same]

theorem scan_fst_eq_known (index : FileIndex) (disk : Disk) :
    (index.scan disk).1 =
      .ofControllers ((index.files disk).filterMap (index.scan disk).2.cache.get?) := by
  have distinct : (index.files disk).Pairwise fun left right => left.same right = false :=
    pairwise_distinctPaths _
  rw [scan_fst]
  congr 1
  refine List.filterMap_congr fun path member => ?_
  rw [scan_find?, find?_same_of_mem distinct member]

theorem known_of_scan {path : FilePath} {known : Controller}
    (found : (index.scan disk).2.cache.get? path = some known) :
    (∃ other, index.cache.get? other = some known) ∨ ∃ other, index.parse? disk other = some known := by
  rw [scan_find?] at found
  split at found
  · next other _ =>
    rcases Option.or_eq_some_iff.mp found with taken | ⟨_, parsed⟩
    · exact .inl ⟨other, taken⟩
    · exact .inr ⟨other, parsed⟩
  · exact .inl ⟨path, found⟩

/-- What is known of a file after a scan: what the scan took for it, if it listed the file. -/
theorem scan_get? (index : FileIndex) (disk : Disk) (sound : disk.Sound) {path : FilePath}
    (listed : index.Lists path) :
    (index.scan disk).2.cache.get? path =
      if path ∈ index.files disk then index.taken? disk path else index.cache.get? path := by
  rw [scan_find?]
  cases first : (index.files disk).find? (·.same path) with
  | some other =>
    have member := List.mem_of_find?_eq_some first
    have same : other.same path = true := by simpa using List.find?_some first
    obtain rfl := (lists_of_mem_files sound member).eq_of_same listed same
    simp [member]
  | none =>
    have absent : path ∉ index.files disk := fun member =>
      List.find?_eq_none.mp first path member (FilePath.same_refl path)
    simp [absent]

/-- Results that tell what they belong to agree as lists only when they agree one by one. -/
private theorem filterMap_eq_iff {α β : Type} {items : List α} {left right : α → Option β} {key : β → α}
    (left_keyed : ∀ item ∈ items, ∀ result, left item = some result → key result = item)
    (right_keyed : ∀ item ∈ items, ∀ result, right item = some result → key result = item) :
    items.filterMap left = items.filterMap right ↔ ∀ item ∈ items, left item = right item := by
  refine ⟨fun agree item member => ?_, fun agree => List.filterMap_congr agree⟩
  have found (choose : α → Option β)
      (keyed : ∀ item ∈ items, ∀ result, choose item = some result → key result = item) (result : β) :
      choose item = some result ↔ result ∈ items.filterMap choose ∧ key result = item := by
    constructor
    · intro chosen
      exact ⟨List.mem_filterMap.mpr ⟨item, member, chosen⟩, keyed item member result chosen⟩
    · rintro ⟨present, same⟩
      obtain ⟨other, listed, chosen⟩ := List.mem_filterMap.mp present
      have same_item : other = item := (keyed other listed result chosen).symm.trans same
      rwa [same_item] at chosen
  apply Option.ext
  intro result
  rw [found left left_keyed, found right right_keyed, agree]

/-- A scan agrees with a scan from scratch exactly when whatever is known of the listed files is what
would be read now. -/
theorem scan_eq_scratch_iff
    (filed : ∀ path ∈ index.files disk, ∀ known, index.cache.get? path = some known →
      known.sourceFile = path) :
    (index.scan disk).1 = index.scanFromScratch disk ↔
      ∀ path ∈ index.files disk, ∀ known, index.cache.get? path = some known →
        index.parse? disk path = some known := by
  have own : ∀ path ∈ index.files disk, ∀ result, index.taken? disk path = some result →
      result.sourceFile = path := by
    intro path member result taken
    rcases Option.or_eq_some_iff.mp taken with known | ⟨_, parsed⟩
    · exact filed path member result known
    · exact parse?_sourceFile parsed
  have pointwise := filterMap_eq_iff own fun path _ result (parsed : index.parse? disk path = some result) =>
    parse?_sourceFile parsed
  have snapshots : (index.scan disk).1 = index.scanFromScratch disk ↔
      (index.files disk).filterMap (index.taken? disk) =
        (index.files disk).filterMap (index.parse? disk) := by
    rw [scan_fst, scanFromScratch_eq]
    exact ⟨fun same => congrArg Snapshot.controllers same, congrArg Snapshot.ofControllers⟩
  rw [snapshots, pointwise]
  refine forall₂_congr fun path member => ?_
  cases known : index.cache.get? path with
  | none => simp [taken?, known]
  | some controller => simp [taken?, known, eq_comm]

theorem scan_eq_scratch
    (current : ∀ path ∈ index.files disk, ∀ known, index.cache.get? path = some known →
      index.parse? disk path = some known) :
    (index.scan disk).1 = index.scanFromScratch disk :=
  (scan_eq_scratch_iff fun path member known found =>
    parse?_sourceFile (current path member known found)).mpr current

theorem Current.scan_eq_scratch (sound : disk.Sound) (current : index.Current disk) :
    (index.scan disk).1 = index.scanFromScratch disk :=
  FileIndex.scan_eq_scratch fun path member known found =>
    (current path known (lists_of_mem_files sound member) found).resolve_left id

/-- What a scan knows afterwards tells whether it has found what a scan from scratch finds. -/
theorem scan_eq_scratch_of_known_after (sound : disk.Sound)
    (current : ∀ path ∈ index.files disk, ∀ known,
      (index.scan disk).2.cache.get? path = some known → index.parse? disk path = some known) :
    (index.scan disk).1 = index.scanFromScratch disk := by
  apply scan_eq_scratch
  intro path member known found
  apply current path member
  rw [index.scan_get? disk sound (lists_of_mem_files sound member)]
  simp [member, taken?, found]

/-- A scan from scratch does not depend on what is known. -/
theorem scanFromScratch_scan (index : FileIndex) (disk : Disk) :
    (index.scan disk).2.scanFromScratch disk = index.scanFromScratch disk := by
  obtain ⟨cache, frame⟩ := index.scan_frame disk
  rw [frame]
  rfl

theorem files_scan (index : FileIndex) (disk : Disk) :
    (index.scan disk).2.files disk = index.files disk := by
  obtain ⟨cache, frame⟩ := index.scan_frame disk
  rw [frame]
  rfl

theorem parse?_scan (index : FileIndex) (disk : Disk) :
    (index.scan disk).2.parse? disk = index.parse? disk := by
  obtain ⟨cache, frame⟩ := index.scan_frame disk
  rw [frame]
  rfl

/-- A scan leaves nothing out of date that was current, or that it had to read. -/
theorem CurrentExcept.scan {exempt : FilePath → Prop} (sound : disk.Sound)
    (current : index.CurrentExcept disk exempt) :
    (index.scan disk).2.CurrentExcept disk fun path =>
      exempt path ∧ ¬(path ∈ index.files disk ∧ index.cache.get? path = none) := by
  obtain ⟨cache, frame⟩ := index.scan_frame disk
  intro path known listed found
  have still_listed : index.Lists path := by simpa [Lists, frame] using listed
  rw [index.scan_get? disk sound still_listed] at found
  rw [parse?_scan]
  by_cases earlier : index.cache.get? path = some known
  · rcases current path known still_listed earlier with outdated | parsed
    · exact .inl ⟨outdated, fun ⟨_, unknown⟩ => by simp [unknown] at earlier⟩
    · exact .inr parsed
  · split at found
    · rcases Option.or_eq_some_iff.mp found with taken | ⟨_, parsed⟩
      · exact absurd taken earlier
      · exact .inr parsed
    · exact absurd found earlier

theorem Current.scan (sound : disk.Sound) (current : index.Current disk) : (index.scan disk).2.Current disk :=
  fun path known listed found => (CurrentExcept.scan sound current path known listed found).imp And.left id

end RouteExplorer.FileIndex
