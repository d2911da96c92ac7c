import RouteExplorer.Proofs.Change.Batching

namespace RouteExplorer

theorem PathMap.erase_of_get?_eq_none {α : Type} {map : PathMap α} {path : FilePath}
    (unknown : map.get? path = none) : map.erase path = map := by
  have other : ∀ entry ∈ map.entries, entry.1.same path = false := by
    simpa [get?] using unknown
  have kept : map.entries.filter (fun entry => !entry.1.same path) = map.entries :=
    List.filter_eq_self.mpr fun entry member => by simp [other entry member]
  rw [erase, kept]

namespace FileIndex

/-- A file that is known, or that has no controller which could get known. -/
def Settled (index : FileIndex) (disk : Disk) (path : FilePath) : Prop :=
  index.cache.get? path = none → index.parse? disk path = none

variable {index : FileIndex} {disk : Disk}

theorem Settled.controller? {path : FilePath} (settled : index.Settled disk path) :
    index.controller? disk path false = (index.cache.get? path, index) := by
  unfold FileIndex.controller?
  cases known : index.cache.get? path with
  | some controller => rfl
  | none => simp [reload, settled known, invalidate, PathMap.erase_of_get?_eq_none known]

/-- Asking for settled files, one after another, finds what is known of them. -/
theorem controllersOf_of_settled {paths : List FilePath}
    (settled : ∀ path ∈ paths, index.Settled disk path) :
    index.controllersOf disk paths = (paths.filterMap index.cache.get?, index) := by
  induction paths with
  | nil => rfl
  | cons path rest ih =>
    have first := (settled path (by simp)).controller?
    have others := ih fun other member => settled other (List.mem_cons_of_mem _ member)
    simp only [controllersOf, first, others]
    cases known : index.cache.get? path <;> simp [known]

/-- A scan settles every file that it lists. -/
theorem settled_scan {path : FilePath} (listed : path ∈ index.files disk) :
    (index.scan disk).2.Settled disk path := by
  intro unknown
  have found : (index.files disk).find? (·.same path) = some path :=
    find?_same_of_mem (pairwise_distinctPaths _) listed
  rw [scan_get?_eq_or, reads?, found] at unknown
  rw [parse?_scan]
  exact (Option.or_eq_none_iff.mp unknown).2

/-- A scan behind a scan finds the same and leaves the index as it is. -/
theorem scan_scan (index : FileIndex) (disk : Disk) : (index.scan disk).2.scan disk = index.scan disk := by
  have asked := controllersOf_of_settled fun path (listed : path ∈ index.files disk) => settled_scan listed
  have files : scanRoots disk (index.scan disk).2.patterns (index.scan disk).2.roots = index.files disk :=
    index.files_scan disk
  calc (index.scan disk).2.scan disk
      = (.ofControllers ((index.files disk).filterMap (index.scan disk).2.cache.get?), (index.scan disk).2) := by
        rw [scan, files, asked]
    _ = index.scan disk := by rw [← scan_fst_eq_known]

end FileIndex

namespace Store

theorem refresh_of_scan {store : Store} {disk : Disk}
    (scans : store.index.scan disk = (store.snapshot, store.index)) : store.refresh disk = (false, store) := by
  unfold refresh
  rw [scans]
  exact if_pos rfl

theorem refresh_refresh (store : Store) (disk : Disk) :
    (store.refresh disk).2.refresh disk = (false, (store.refresh disk).2) := by
  apply refresh_of_scan
  rw [refresh_index, refresh_snapshot, FileIndex.scan_scan]

end Store

namespace Session

/-- Whatever a session knew or missed, a refresh right behind another one tells of no change and leaves the
session as it is: its patterns, what is known of its files, the controllers and routes that are shown and
searched, the view, and what waits for each subscriber. -/
theorem refresh_idempotent (session : Session) (disk : Disk) :
    (session.refresh disk).2.refresh disk = (false, (session.refresh disk).2) := by
  have unchanged : (session.refresh disk).2.store.refresh disk = (false, (session.refresh disk).2.store) :=
    session.store.refresh_refresh disk
  rw [refresh, unchanged]
  rfl

end Session

end RouteExplorer
