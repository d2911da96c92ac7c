import RouteExplorer.Proofs.Session.Run

/-!
A batch of events against its events one at a time. The refreshes between the events read only files that
the refresh behind the last event would read as well, so that they leave no trace.
-/
namespace RouteExplorer

namespace FileIndex

/-- Indexes that read the same of a disk: their roots, patterns and buffers are the same. -/
structure Alike (left right : FileIndex) : Prop where
  roots : left.roots = right.roots
  patterns : left.patterns = right.patterns
  overlay : left.overlay = right.overlay

/-- Indexes that cannot be told apart: they read the same, and the same is known of every path. -/
structure Agrees (left right : FileIndex) : Prop extends Alike left right where
  known : ∀ path, left.cache.get? path = right.cache.get? path

variable {left right : FileIndex}

theorem Alike.symm (alike : left.Alike right) : right.Alike left :=
  ⟨alike.roots.symm, alike.patterns.symm, alike.overlay.symm⟩

theorem Alike.trans {first second third : FileIndex} (before : first.Alike second)
    (behind : second.Alike third) : first.Alike third :=
  ⟨before.roots.trans behind.roots, before.patterns.trans behind.patterns,
    before.overlay.trans behind.overlay⟩

theorem Alike.files (alike : left.Alike right) (disk : Disk) : left.files disk = right.files disk := by
  rw [FileIndex.files, alike.roots, alike.patterns]
  rfl

theorem Alike.reads? (alike : left.Alike right) (disk : Disk) : left.reads? disk = right.reads? disk := by
  funext path
  have parses : left.parse? disk = right.parse? disk := by
    funext other
    rw [parse?, alike.overlay]
    rfl
  rw [FileIndex.reads?, alike.files, parses]
  rfl

theorem alike_scan (index : FileIndex) (disk : Disk) : (index.scan disk).2.Alike index := by
  obtain ⟨_, scans⟩ := index.scan_frame disk
  rw [scans]
  exact ⟨rfl, rfl, rfl⟩

theorem Agrees.refl (index : FileIndex) : index.Agrees index := ⟨⟨rfl, rfl, rfl⟩, fun _ => rfl⟩

theorem Agrees.trans {first second third : FileIndex} (before : first.Agrees second)
    (behind : second.Agrees third) : first.Agrees third :=
  ⟨before.toAlike.trans behind.toAlike, fun path => (before.known path).trans (behind.known path)⟩

/-- Scans that leave the same knowledge have found the same. -/
theorem scan_fst_congr {disk : Disk} (agrees : (left.scan disk).2.Agrees (right.scan disk).2) :
    (left.scan disk).1 = (right.scan disk).1 := by
  have files : left.files disk = right.files disk := by
    rw [← files_scan, agrees.files, files_scan]
  rw [scan_fst_eq_known, scan_fst_eq_known, files, funext agrees.known]

end FileIndex

namespace Session

/-- Sessions that cannot be told apart but by what their subscribers were told. -/
structure Agrees (left right : Session) : Prop where
  index : left.index.Agrees right.index
  snapshot : left.store.snapshot = right.store.snapshot
  searched : left.searched = right.searched
  grouping : left.grouping = right.grouping

variable {session : Session} {disk : Disk}

theorem Agrees.refl (session : Session) : session.Agrees session := ⟨.refl _, rfl, rfl, rfl⟩

theorem Agrees.trans {first second third : Session} (before : first.Agrees second)
    (behind : second.Agrees third) : first.Agrees third where
  index := before.index.trans behind.index
  snapshot := before.snapshot.trans behind.snapshot
  searched := before.searched.trans behind.searched
  grouping := before.grouping.trans behind.grouping

theorem alike_refresh (session : Session) (disk : Disk) :
    (session.refresh disk).2.index.Alike session.index := by
  rw [refresh_index]
  exact session.index.alike_scan disk

theorem isEligible_refresh (session : Session) (disk : Disk) :
    (session.refresh disk).2.isEligible = session.isEligible := by
  have alike := session.alike_refresh disk
  funext path
  rw [isEligible, FileIndex.isEligible, alike.roots, alike.patterns]
  rfl

/-- Whether events concern a session does not depend on what it has read. -/
theorem absorbAll_fst_refresh (session : Session) (disk : Disk) (events : List ChangeEvent) :
    ((session.refresh disk).2.absorbAll events).1 = (session.absorbAll events).1 := by
  rw [absorbAll_fst, absorbAll_fst, isEligible_refresh]

theorem grouping_absorbed (session : Session) (events : List ChangeEvent) :
    (session.absorbed events).grouping = session.grouping := by
  obtain ⟨_, frame⟩ := session.absorbed_frame events
  rw [frame]
  rfl

theorem refresh_grouping (session : Session) (disk : Disk) :
    (session.refresh disk).2.grouping =
      session.grouping.updateControllers (session.refresh disk).2.store.snapshot.controllers :=
  rfl

private theorem alike_absorbed {left right : Session} (alike : left.index.Alike right.index)
    (events : List ChangeEvent) : (left.absorbed events).index.Alike (right.absorbed events).index := by
  obtain ⟨_, left_frame⟩ := left.absorbed_frame events
  obtain ⟨_, right_frame⟩ := right.absorbed_frame events
  rw [left_frame, right_frame]
  exact ⟨alike.roots, congrArg (Option.getD _) alike.patterns, alike.overlay⟩

/-- A scan before some events changes nothing of what is known behind the scan after them. -/
theorem scan_absorbed_refresh (session : Session) (disk : Disk) (events : List ChangeEvent) :
    ((session.absorbed events).index.scan disk).2.Agrees
      (((session.refresh disk).2.absorbed events).index.scan disk).2 := by
  have alike := alike_absorbed (session.alike_refresh disk).symm events
  have scans_alike := ((FileIndex.alike_scan _ disk).trans alike).trans (FileIndex.alike_scan _ disk).symm
  refine ⟨scans_alike, fun path => ?_⟩
  rw [FileIndex.scan_get?_eq_or, FileIndex.scan_get?_eq_or, ← alike.reads?, absorbed_get?, absorbed_get?,
    isEligible_refresh, refresh_index, FileIndex.scan_get?_eq_or]
  split
  · rfl
  · next silent =>
    -- without a reset the first scan read under the patterns of the last one
    have stays : ∀ event ∈ events, event.resets = false := by
      intro event member
      apply Bool.eq_false_iff.mpr
      intro resets
      exact silent (List.any_eq_true.mpr ⟨event, member, by simp [resets]⟩)
    have reads : (session.absorbed events).index.reads? disk = session.index.reads? disk := by
      obtain ⟨_, frame⟩ := session.absorbed_frame events
      rw [frame, ChangeEvent.lastPatterns?_of_not_resets stays]
      rfl
    rw [reads, Option.or_assoc, Option.or_self]

/-- A refresh before some events changes nothing behind the refresh after them. -/
theorem refresh_absorbed_refresh (session : Session) (disk : Disk) (events : List ChangeEvent) :
    ((session.absorbed events).refresh disk).2.Agrees
      (((session.refresh disk).2.absorbed events).refresh disk).2 := by
  have scans := session.scan_absorbed_refresh disk events
  have snapshot : ((session.absorbed events).refresh disk).2.store.snapshot =
      (((session.refresh disk).2.absorbed events).refresh disk).2.store.snapshot := by
    rw [refresh_snapshot, refresh_snapshot]
    exact FileIndex.scan_fst_congr scans
  refine ⟨?_, snapshot, congrArg Snapshot.routes snapshot, ?_⟩
  · rw [refresh_index, refresh_index]
    exact scans
  · rw [refresh_grouping, refresh_grouping, snapshot, grouping_absorbed, grouping_absorbed, refresh_grouping]
    rfl

/-- Apply events one at a time. The answers tell for each of them whether the session was refreshed. -/
def applyEach (session : Session) (disk : Disk) : List ChangeEvent → List Bool × Session
  | [] => ([], session)
  | event :: rest =>
    let (refreshed, next) := session.apply disk event
    let (others, last) := next.applyEach disk rest
    (refreshed :: others, last)

/-- A batch leaves what its first event leaves and then the others. -/
theorem applyBatch_cons (session : Session) (disk : Disk) (event : ChangeEvent) (rest : List ChangeEvent) :
    (session.applyBatch disk (event :: rest)).1 =
        ((session.apply disk event).1 || ((session.apply disk event).2.applyBatch disk rest).1) ∧
      (session.applyBatch disk (event :: rest)).2.Agrees
        ((session.apply disk event).2.applyBatch disk rest).2 := by
  have first : session.apply disk event = _ := session.applyBatch_eq disk [event]
  have splits : (session.absorbAll (event :: rest)).1 =
      ((session.absorbAll [event]).1 || ((session.absorbed [event]).absorbAll rest).1) :=
    session.absorbAll_fst_cons event rest
  have whole : session.absorbed (event :: rest) = (session.absorbed [event]).absorbed rest := rfl
  cases concerned : (session.absorbAll [event]).1 with
  | true =>
    rw [concerned, if_pos rfl] at first
    rw [concerned, Bool.true_or] at splits
    have decided := (session.absorbed [event]).absorbAll_fst_refresh disk rest
    rw [first, applyBatch_eq session, applyBatch_eq, splits, if_pos rfl, whole]
    refine ⟨rfl, ?_⟩
    cases later : ((session.absorbed [event]).absorbAll rest).1 with
    | true =>
      rw [decided, later, if_pos rfl]
      exact (session.absorbed [event]).refresh_absorbed_refresh disk rest
    | false =>
      rw [later] at decided
      rw [decided, if_neg Bool.false_ne_true, absorbed_of_unconcerned decided, absorbed_of_unconcerned later]
      exact .refl _
  | false =>
    rw [concerned, if_neg Bool.false_ne_true] at first
    rw [concerned, Bool.false_or] at splits
    rw [first, applyBatch_eq session, applyBatch_eq, splits, whole]
    refine ⟨?_, .refl _⟩
    split <;> rfl

/-- A batch leaves every session as its events leave it one at a time, and it refreshes the session
exactly when one of them does. -/
theorem applyBatch_agrees_each (session : Session) (disk : Disk) (events : List ChangeEvent) :
    (session.applyBatch disk events).2.Agrees (session.applyEach disk events).2 ∧
      ((session.applyBatch disk events).1 = true ↔ true ∈ (session.applyEach disk events).1) := by
  induction events generalizing session with
  | nil => exact ⟨.refl _, by simp [applyBatch, applyEach, absorbAll]⟩
  | cons event rest ih =>
    obtain ⟨later, refreshes⟩ := ih (session.apply disk event).2
    obtain ⟨splits, agrees⟩ := session.applyBatch_cons disk event rest
    refine ⟨agrees.trans later, ?_⟩
    rw [splits, Bool.or_eq_true, refreshes, applyEach, List.mem_cons, eq_comm]

end Session

end RouteExplorer
