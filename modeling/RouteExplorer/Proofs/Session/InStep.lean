import RouteExplorer.Proofs.Change.Batching
import RouteExplorer.Proofs.Change.Coalescing
import RouteExplorer.Proofs.Workspace.Overlay

namespace RouteExplorer

namespace FileIndex

/-- Indexes over the same roots and patterns, in which each path has the same buffer and the same controller. -/
structure InStep (left right : FileIndex) : Prop where
  roots : left.roots = right.roots
  patterns : left.patterns = right.patterns
  buffers : ∀ path, left.overlay.buffers.get? path = right.overlay.buffers.get? path
  known : ∀ path, left.cache.get? path = right.cache.get? path

variable {left right : FileIndex}

theorem InStep.refl (index : FileIndex) : index.InStep index := ⟨rfl, rfl, fun _ => rfl, fun _ => rfl⟩

theorem InStep.files (inStep : left.InStep right) (disk : Disk) : left.files disk = right.files disk := by
  rw [FileIndex.files, inStep.roots, inStep.patterns]
  rfl

theorem InStep.parse? (inStep : left.InStep right) (disk : Disk) : left.parse? disk = right.parse? disk := by
  funext path
  have shows : left.overlay.read? disk path = right.overlay.read? disk path := by
    simp only [Overlay.read?, Overlay.openAt?, inStep.buffers]
  rw [FileIndex.parse?, shows]
  rfl

theorem InStep.scan_known (inStep : left.InStep right) (disk : Disk) (path : FilePath) :
    (left.scan disk).2.cache.get? path = (right.scan disk).2.cache.get? path := by
  rw [scan_get?_eq_or, scan_get?_eq_or, inStep.known, reads?, reads?, inStep.files, inStep.parse?]

theorem InStep.scan (inStep : left.InStep right) (disk : Disk) :
    (left.scan disk).1 = (right.scan disk).1 ∧ (left.scan disk).2.InStep (right.scan disk).2 := by
  have known := inStep.scan_known disk
  have found : (left.scan disk).1 = (right.scan disk).1 := by
    rw [scan_fst_eq_known, scan_fst_eq_known, inStep.files, funext known]
  obtain ⟨_, left_frame⟩ := left.scan_frame disk
  obtain ⟨_, right_frame⟩ := right.scan_frame disk
  refine ⟨found, ?_, ?_, ?_, known⟩
  · rw [left_frame, right_frame]
    exact inStep.roots
  · rw [left_frame, right_frame]
    exact inStep.patterns
  · rw [left_frame, right_frame]
    exact inStep.buffers

end FileIndex

namespace Session

/-- Sessions whose indexes are in step and which have the same in view. -/
structure InStep (left right : Session) : Prop where
  index : left.index.InStep right.index
  snapshot : left.store.snapshot = right.store.snapshot
  searched : left.searched = right.searched
  grouping : left.grouping = right.grouping

variable {left right : Session} {disk : Disk}

theorem InStep.refl (session : Session) : session.InStep session := ⟨.refl _, rfl, rfl, rfl⟩

theorem InStep.isEligible (inStep : left.InStep right) : left.isEligible = right.isEligible := by
  funext path
  rw [Session.isEligible, FileIndex.isEligible, inStep.index.roots, inStep.index.patterns]
  rfl

/-- Refreshes of sessions in step tell the same and leave them in step. -/
theorem InStep.refresh (inStep : left.InStep right) (disk : Disk) :
    (left.refresh disk).1 = (right.refresh disk).1 ∧ (left.refresh disk).2.InStep (right.refresh disk).2 := by
  obtain ⟨found, index⟩ := inStep.index.scan disk
  have snapshot : (left.refresh disk).2.store.snapshot = (right.refresh disk).2.store.snapshot := by
    rw [refresh_snapshot, refresh_snapshot, found]
  have told : (left.store.refresh disk).1 = (right.store.refresh disk).1 := by
    have after : (left.store.refresh disk).2.snapshot = (right.store.refresh disk).2.snapshot := snapshot
    rw [Store.refresh_fst, Store.refresh_fst, inStep.snapshot, after]
  refine ⟨told, ?_, snapshot, congrArg Snapshot.routes snapshot, ?_⟩
  · rw [refresh_index, refresh_index]
    exact index
  · rw [refresh_grouping, refresh_grouping, inStep.grouping, snapshot]

theorem InStep.concerned (inStep : left.InStep right) {event other : ChangeEvent}
    (same : event.same other = true) : (left.absorbAll [event]).1 = (right.absorbAll [other]).1 := by
  obtain ⟨_, _, resets⟩ := ChangeEvent.eq_of_same same
  simp only [absorbAll_fst, List.any_cons, List.any_nil, Bool.or_false, resets,
    ChangeEvent.file?_any_of_same same right, inStep.isEligible]

theorem InStep.absorbed (inStep : left.InStep right) {event other : ChangeEvent}
    (same : event.same other = true) : (left.absorbed [event]).InStep (right.absorbed [other]) := by
  obtain ⟨names, patterns, resets⟩ := ChangeEvent.eq_of_same same
  have known (path : FilePath) : (left.absorbed [event]).index.cache.get? path =
      (right.absorbed [other]).index.cache.get? path := by
    rw [absorbed_get?, absorbed_get?, inStep.index.known]
    simp only [List.any_cons, List.any_nil, Bool.or_false, names, resets, inStep.isEligible]
  have last : ChangeEvent.lastPatterns? [event] = ChangeEvent.lastPatterns? [other] := by
    simp [ChangeEvent.lastPatterns?, patterns]
  obtain ⟨_, left_frame⟩ := left.absorbed_frame [event]
  obtain ⟨_, right_frame⟩ := right.absorbed_frame [other]
  rw [left_frame, right_frame, last] at known ⊢
  exact ⟨⟨inStep.index.roots, congrArg (Option.getD _) inStep.index.patterns, inStep.index.buffers, known⟩,
    inStep.snapshot, inStep.searched, inStep.grouping⟩

theorem InStep.apply (inStep : left.InStep right) (disk : Disk) {event other : ChangeEvent}
    (same : event.same other = true) :
    (left.apply disk event).1 = (right.apply disk other).1 ∧
      (left.apply disk event).2.InStep (right.apply disk other).2 := by
  have concerned := inStep.concerned same
  have absorbed := inStep.absorbed same
  unfold Session.apply
  rw [applyBatch_eq, applyBatch_eq, concerned]
  split
  · exact ⟨rfl, (absorbed.refresh disk).2⟩
  · exact ⟨rfl, absorbed⟩

/-- The same edit of a buffer by two spellings of its path leaves sessions in step. -/
theorem InStep.withOverlay (inStep : left.InStep right) {path other : FilePath} {first second : Overlay}
    {change : Option Buffer → Option Buffer} (same : path.same other = true)
    (left_edits : left.index.overlay.Edits first path change)
    (right_edits : right.index.overlay.Edits second other change) :
    (left.withOverlay first).InStep (right.withOverlay second) := by
  have buffers (file : FilePath) : first.buffers.get? file = second.buffers.get? file := by
    have means : path.same file = other.same file := by
      rw [path.same_comm, other.same_comm]
      exact FilePath.same_congr same file
    rw [left_edits, right_edits, means, inStep.index.buffers]
  exact ⟨⟨inStep.index.roots, inStep.index.patterns, buffers, inStep.index.known⟩,
    inStep.snapshot, inStep.searched, inStep.grouping⟩

end Session

end RouteExplorer
