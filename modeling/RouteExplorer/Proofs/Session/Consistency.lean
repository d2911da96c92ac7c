import RouteExplorer.Proofs.Session.Run

namespace RouteExplorer

/-- Only controllers with a property are known or shown. -/
structure Session.HoldsOnly (session : Session) (property : Controller → Prop) : Prop where
  known : ∀ path known, session.index.cache.get? path = some known → property known
  shown : ∀ controller ∈ session.store.snapshot.controllers, property controller

/-- The store holds the routes of its controllers, and the engines follow it. -/
structure Session.Aligned (session : Session) : Prop where
  whole : session.store.Whole
  searched : session.searched = session.store.snapshot.routes
  grouped : session.grouping.controllers = session.store.snapshot.controllers

/-- The engines follow the store, and every controller that is shown or known owns its routes. -/
structure Session.Consistent (session : Session) : Prop where
  known : ∀ path known, session.index.cache.get? path = some known → known.OwnsRoutes
  shown : ∀ controller ∈ session.store.snapshot.controllers, controller.OwnsRoutes
  whole : session.store.snapshot.routes = session.store.snapshot.controllers.flatMap Controller.routes
  searched : session.searched = session.store.snapshot.routes
  grouped : session.grouping.controllers = session.store.snapshot.controllers

namespace Session

variable {session : Session} {property : Controller → Prop}

theorem HoldsOnly.idle (holds : session.HoldsOnly property) {later : Session} (idle : session.Idle later) :
    later.HoldsOnly property where
  known path known found := holds.known path known (idle.known path known found)
  shown := idle.snapshot ▸ holds.shown

theorem HoldsOnly.refresh
    (reads : ∀ file text found, Controller.ofText? file text = some found → property found)
    (holds : session.HoldsOnly property) (disk : Disk) : (session.refresh disk).2.HoldsOnly property := by
  have parsed {path : FilePath} {found : Controller}
      (parses : session.index.parse? disk path = some found) : property found := by
    obtain ⟨text, _, read⟩ := Option.bind_eq_some_iff.mp parses
    exact reads path text found read
  constructor
  · intro path known found
    rw [refresh_index] at found
    rcases FileIndex.known_of_scan found with ⟨other, earlier⟩ | ⟨other, parses⟩
    · exact holds.known other known earlier
    · exact parsed parses
  · intro controller member
    rw [refresh_snapshot, FileIndex.scan_fst] at member
    obtain ⟨path, _, taken⟩ := List.mem_filterMap.mp member
    rcases Option.or_eq_some_iff.mp taken with earlier | ⟨_, parses⟩
    · exact holds.known path controller earlier
    · exact parsed parses

theorem Aligned.idle (aligned : session.Aligned) {later : Session} (idle : session.Idle later) :
    later.Aligned where
  whole := by rw [Store.Whole, idle.snapshot, aligned.whole]
  searched := by rw [idle.searched, idle.snapshot, aligned.searched]
  grouped := by rw [idle.controllers, idle.snapshot, aligned.grouped]

theorem aligned_refresh (session : Session) (disk : Disk) : (session.refresh disk).2.Aligned where
  whole := session.store.whole_refresh disk
  searched := (session.refresh_follows disk).1
  grouped := (session.refresh_follows disk).2

theorem Consistent.aligned (consistent : session.Consistent) : session.Aligned :=
  ⟨consistent.whole, consistent.searched, consistent.grouped⟩

theorem Consistent.idle (consistent : session.Consistent) {later : Session} (idle : session.Idle later) :
    later.Consistent := by
  have aligned := consistent.aligned.idle idle
  exact ⟨fun path known found => consistent.known path known (idle.known path known found),
    idle.snapshot ▸ consistent.shown, aligned.whole, aligned.searched, aligned.grouped⟩

theorem Consistent.refresh (consistent : session.Consistent) (disk : Disk) :
    (session.refresh disk).2.Consistent := by
  have owns : session.HoldsOnly Controller.OwnsRoutes := ⟨consistent.known, consistent.shown⟩
  have owning := owns.refresh (fun _ _ _ => Controller.owned_of_ofText?) disk
  have aligned := session.aligned_refresh disk
  exact ⟨owning.known, owning.shown, aligned.whole, aligned.searched, aligned.grouped⟩

end Session

namespace Explorer

theorem nothing_known_of_fresh {explorer : Explorer} (fresh : explorer.Fresh) (path : FilePath)
    (known : Controller) : explorer.session.index.cache.get? path ≠ some known := by
  simp [fresh.unknown, PathMap.get?_empty]

theorem nothing_shown_of_fresh {explorer : Explorer} (fresh : explorer.Fresh) :
    explorer.session.store.snapshot = .empty := by
  rw [fresh.idle]
  rfl

theorem consistent_of_fresh {explorer : Explorer} (fresh : explorer.Fresh) : explorer.session.Consistent := by
  have nothing := nothing_known_of_fresh fresh
  rw [fresh.idle] at nothing ⊢
  exact ⟨fun path known found => absurd found (nothing path known),
    by simp [Session.ofStore, Store.ofIndex, Snapshot.empty], rfl, rfl, rfl⟩

theorem consistent_step {explorer : Explorer} (consistent : explorer.session.Consistent) (action : Action) :
    (explorer.step action).session.Consistent := by
  rcases explorer.step_cases action with ⟨session, _, idle, steps⟩ | ⟨_, idle⟩
  · rw [steps]
    exact (consistent.idle idle).refresh explorer.disk
  · exact consistent.idle idle

/-- What a session has from the start and every action keeps, it has behind every run. -/
theorem run_induction (invariant : Session → Prop) {start : Explorer}
    (begins : invariant start.session)
    (steps : ∀ (explorer : Explorer) (action : Action), invariant explorer.session →
      invariant (explorer.step action).session)
    (actions : List Action) : invariant (start.run actions).session := by
  induction actions generalizing start with
  | nil => exact begins
  | cons action rest ih => exact ih (steps start action begins)

theorem Reached.consistent {explorer : Explorer} (reached : explorer.Reached) : explorer.session.Consistent := by
  obtain ⟨start, actions, fresh, rfl⟩ := reached
  exact run_induction Session.Consistent (consistent_of_fresh fresh)
    (fun _ action consistent => consistent_step consistent action) actions

/-- A property of all controllers that are read from files holds of all that are known or shown in a
reached state. -/
theorem Reached.holdsOnly {explorer : Explorer} (reached : explorer.Reached) {property : Controller → Prop}
    (reads : ∀ file text found, Controller.ofText? file text = some found → property found) :
    explorer.session.HoldsOnly property := by
  obtain ⟨start, actions, fresh, rfl⟩ := reached
  have begins : start.session.HoldsOnly property := by
    refine ⟨fun path known found => absurd found (nothing_known_of_fresh fresh path known), ?_⟩
    rw [nothing_shown_of_fresh fresh]
    simp [Snapshot.empty]
  refine run_induction (·.HoldsOnly property) begins (fun explorer action holds => ?_) actions
  rcases explorer.step_cases action with ⟨session, _, idle, steps⟩ | ⟨_, idle⟩
  · rw [steps]
    exact (holds.idle idle).refresh reads explorer.disk
  · exact holds.idle idle

end Explorer

end RouteExplorer
