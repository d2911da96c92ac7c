import RouteExplorer.Proofs.Session.Run
import RouteExplorer.Proofs.Workspace.Overlay

/-!
Sessions that show what a scan from scratch finds and know nothing else. Over a disk that stays as it is
such a session stays up to date: events make it read again what is there, and an edit of a buffer is
followed by an event that reports the file.
-/
namespace RouteExplorer.Session

/-- What is shown is what a scan from scratch finds, and whatever is known would be read again. -/
structure UpToDate (session : Session) (disk : Disk) : Prop where
  current : session.index.Current disk
  shown : session.store.snapshot = session.index.scanFromScratch disk

variable {session : Session} {disk : Disk}

/-- A refresh of a session that knows nothing out of date brings it up to date. -/
theorem upToDate_refresh (sound : disk.Sound) (current : session.index.Current disk) :
    (session.refresh disk).2.UpToDate disk := by
  constructor
  · rw [refresh_index]
    exact current.scan sound
  · rw [refresh_snapshot, refresh_index, FileIndex.scanFromScratch_scan]
    exact current.scan_eq_scratch sound

theorem upToDate_of_ofRoots (sound : disk.Sound) {roots : List FilePath} {config : Config}
    (opened : ofRoots disk roots config = .ok session) : session.UpToDate disk := by
  obtain ⟨patterns, _, rfl⟩ := exists_of_ofRoots opened
  refine upToDate_refresh sound ?_
  intro path known _ found
  exact absurd found (by simp [index, ofStore, Store.ofIndex, PathMap.get?_empty])

theorem UpToDate.of_eq (upToDate : session.UpToDate disk) {later : Session}
    (index : later.index = session.index) (snapshot : later.store.snapshot = session.store.snapshot) :
    later.UpToDate disk :=
  ⟨index ▸ upToDate.current, by rw [snapshot, index, upToDate.shown]⟩

/-- Events that report whatever is out of date bring a session up to date, if what it shows is right in
case that none of them concerns it. -/
theorem upToDate_applyBatch (sound : disk.Sound) {exempt : FilePath → Prop}
    (current : session.index.CurrentExcept disk exempt) {events : List ChangeEvent}
    (reported : ∀ path, exempt path → ∃ event ∈ events, event.reports path = true)
    (quiet : (session.absorbAll events).1 = false →
      session.store.snapshot = session.index.scanFromScratch disk) :
    (session.applyBatch disk events).2.UpToDate disk := by
  have current_after := current_absorbed current reported
  rw [applyBatch_eq]
  split
  · exact upToDate_refresh sound current_after
  · next concerned =>
    have unconcerned : (session.absorbAll events).1 = false := by simpa using concerned
    rw [absorbed_of_unconcerned unconcerned] at current_after ⊢
    exact ⟨current_after, quiet unconcerned⟩

theorem UpToDate.applyBatch (sound : disk.Sound) (upToDate : session.UpToDate disk)
    (events : List ChangeEvent) : (session.applyBatch disk events).2.UpToDate disk :=
  upToDate_applyBatch sound upToDate.current (fun _ impossible => impossible.elim) fun _ => upToDate.shown

section

variable {overlay : Overlay} {path : FilePath} {change : Option Buffer → Option Buffer}
  (edits : session.index.overlay.Edits overlay path change)

include edits

theorem parse?_edited (disk : Disk) {other : FilePath} (different : path.same other = false) :
    (session.withOverlay overlay).index.parse? disk other = session.index.parse? disk other := by
  have shows : overlay.read? disk other = session.index.overlay.read? disk other :=
    edits.read?_eq disk different
  simp only [FileIndex.parse?, ← shows]
  rfl

theorem currentExcept_edited (current : session.index.Current disk) :
    (session.withOverlay overlay).index.CurrentExcept disk fun other => path.same other = true := by
  intro other known listed found
  by_cases same : path.same other = true
  · exact .inl same
  · rw [parse?_edited edits disk (by simpa using same)]
    exact (current other known listed found).imp False.elim id

theorem scanFromScratch_edited (sound : disk.Sound) (ineligible : session.isEligible path = false) :
    (session.withOverlay overlay).index.scanFromScratch disk = session.index.scanFromScratch disk := by
  have parses : ∀ other ∈ session.index.files disk,
      (session.withOverlay overlay).index.parse? disk other = session.index.parse? disk other := by
    intro other member
    apply parse?_edited edits
    apply Bool.eq_false_iff.mpr
    intro same
    have listed : session.index.isEligible other = true :=
      FileIndex.isEligible_of_lists (FileIndex.lists_of_mem_files sound member)
    have eligible : session.isEligible path = true :=
      (isEligible_congr session.index.roots session.index.patterns same).trans listed
    simp [eligible] at ineligible
  rw [FileIndex.scanFromScratch_eq, FileIndex.scanFromScratch_eq]
  exact congrArg Snapshot.ofControllers (List.filterMap_congr parses)

/-- A buffer may be edited if the session is told that its file was saved. -/
theorem UpToDate.edit (upToDate : session.UpToDate disk) (sound : disk.Sound) :
    ((session.withOverlay overlay).applyBatch disk [.saved path]).2.UpToDate disk := by
  refine upToDate_applyBatch sound (currentExcept_edited edits upToDate.current) ?_ ?_
  · intro other same
    exact ⟨.saved path, by simp, by simp [ChangeEvent.reports, ChangeEvent.names, same]⟩
  · intro unconcerned
    have ineligible : (session.withOverlay overlay).isEligible path = false := by
      simpa [absorbAll_fst, ChangeEvent.resets, ChangeEvent.patterns?, ChangeEvent.file?] using unconcerned
    rw [scanFromScratch_edited edits sound ineligible]
    exact upToDate.shown

end

end RouteExplorer.Session
