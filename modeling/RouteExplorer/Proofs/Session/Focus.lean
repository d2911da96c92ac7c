import RouteExplorer.Proofs.Change.Batching
import RouteExplorer.Proofs.Search.View
import RouteExplorer.Proofs.Session.Consistency

namespace RouteExplorer

namespace Search.Grouping

/-- The expanded owners are listed, and the focus is on an owner that is not collapsed. -/
structure Focused (grouping : Grouping) : Prop where
  listed : grouping.Listed
  expanded : ∀ owner, grouping.view.focusedOwner = some owner → grouping.isExpanded owner = true

variable {grouping : Grouping}

theorem focused_ofControllers (controllers : List Controller) : (ofControllers controllers).Focused where
  listed := listed_sync _
  expanded owner focused := by cases focused

/-- A toggle moves the focus to the owner that it expands, or takes it away. -/
theorem Focused.toggleOwner (focused : grouping.Focused) (owner : String) :
    (grouping.toggleOwner owner).Focused where
  listed := focused.listed.act (.toggleOwner owner)
  expanded name looksAt := by
    change (if (grouping.toggleOwner owner).isExpanded owner then some owner else none) = some name at looksAt
    split at looksAt
    · next expanded =>
      obtain rfl := Option.some.inj looksAt
      exact expanded
    · cases looksAt

theorem Focused.act (focused : grouping.Focused) (action : Action) : (grouping.act action).Focused := by
  have listed := focused.listed.act action
  cases action with
  | toggleOwner owner => exact focused.toggleOwner owner
  | _ => exact ⟨listed, focused.expanded⟩

theorem Focused.run (focused : grouping.Focused) (actions : List Action) : (grouping.run actions).Focused := by
  induction actions generalizing grouping with
  | nil => exact focused
  | cons action rest ih => exact ih (focused.act action)

theorem Focused.mem_expandedOwners_iff (focused : grouping.Focused) {owner : String}
    (looksAt : grouping.view.focusedOwner = some owner) :
    owner ∈ grouping.view.expandedOwners ↔ ∃ controller ∈ grouping.controllers, controller.name = owner := by
  have expanded := focused.expanded owner looksAt
  rw [focused.listed, List.mem_filter, and_iff_left expanded, List.mem_map]

end Search.Grouping

open Search (Grouping)

/-- The view lists the expanded controllers of the store, and the focus is on an owner that is not collapsed. -/
structure Session.Focused (session : Session) : Prop where
  grouped : session.grouping.controllers = session.store.snapshot.controllers
  view : session.grouping.Focused

namespace Explorer

/-- A batch does nothing to the view but to bring in the controllers of a refresh. -/
theorem grouping_applyBatch (session : Session) (disk : Disk) (events : List ChangeEvent) :
    ∃ acts : List Grouping.Action, (session.applyBatch disk events).2.grouping = session.grouping.run acts := by
  rw [Session.applyBatch_eq]
  split
  · let scanned := ((session.absorbed events).refresh disk).2.store.snapshot.controllers
    refine ⟨[.updateControllers scanned], ?_⟩
    rw [Session.refresh_grouping, Session.grouping_absorbed]
    rfl
  · exact ⟨[], session.grouping_absorbed events⟩

theorem grouping_step (explorer : Explorer) (action : Action) :
    ∃ acts : List Grouping.Action,
      (explorer.step action).session.grouping = explorer.session.grouping.run acts := by
  cases action with
  | apply event => exact grouping_applyBatch _ _ [event]
  | applyBatch events => exact grouping_applyBatch _ _ events
  | applyConfig config => exact ⟨[], explorer.session.grouping_absorbed [.configured config]⟩
  | refresh => exact ⟨[.updateControllers _], rfl⟩
  | searchGrouped query => exact ⟨[.setQuery query, .buildInitialResult], rfl⟩
  | searchFlat query => exact ⟨[.setQuery query], rfl⟩
  | toggleOwner owner => exact ⟨[.toggleOwner owner], rfl⟩
  | toggleDisplayMode => exact ⟨[.toggleDisplayMode], rfl⟩
  | _ => exact ⟨[], rfl⟩

theorem focused_step {explorer : Explorer} (focused : explorer.session.Focused) (action : Action) :
    (explorer.step action).session.Focused := by
  refine ⟨?_, ?_⟩
  · rcases explorer.step_cases action with ⟨session, _, _, steps⟩ | ⟨_, idle⟩
    · rw [steps]
      exact (session.refresh_follows explorer.disk).2
    · rw [idle.controllers, idle.snapshot, focused.grouped]
  · obtain ⟨acts, view⟩ := explorer.grouping_step action
    rw [view]
    exact focused.view.run acts

/-- In a session over any store, and after anything that happens to it, the owner in focus is not collapsed,
and it is among the expanded owners exactly if the store holds a controller of its name. -/
theorem focusedOwner_expanded_iff (disk : Disk) (store : Store) (actions : List Action) {owner : String}
    (looksAt : (run ⟨disk, .ofStore store⟩ actions).session.view.focusedOwner = some owner) :
    let session := (run ⟨disk, .ofStore store⟩ actions).session
    session.grouping.isExpanded owner = true ∧
      (owner ∈ session.view.expandedOwners ↔
        ∃ controller ∈ session.store.snapshot.controllers, controller.name = owner) := by
  intro session
  have focused : session.Focused :=
    run_induction Session.Focused ⟨rfl, Grouping.focused_ofControllers _⟩
      (fun _ action focused => focused_step focused action) actions
  refine ⟨focused.view.expanded owner looksAt, ?_⟩
  rw [← focused.grouped]
  exact focused.view.mem_expandedOwners_iff looksAt

def catsAlone : Explorer := overDirectories [("w", controllerText "Cats" "")]

def focusCats : List Action := [.refresh, .toggleOwner "Cats", .toggleOwner "Cats"]

def removeCats : List Action :=
  [.changeDisk ⟨[], [(["w"], .directory)]⟩ (by decide), .apply (.deleted ⟨"/w/a.ts"⟩)]

theorem cats_in_focus :
    let session := (catsAlone.run focusCats).session
    session.view.focusedOwner = some "Cats" ∧ session.grouping.isExpanded "Cats" = true ∧
      "Cats" ∈ session.view.expandedOwners := by
  intro session
  have looksAt : session.view.focusedOwner = some "Cats" := by decide +kernel
  have shown : ∃ controller ∈ session.store.snapshot.controllers, controller.name = "Cats" := by decide +kernel
  obtain ⟨expanded, listed_iff⟩ := focusedOwner_expanded_iff catsAlone.disk catsAlone.session.store focusCats looksAt
  exact ⟨looksAt, expanded, listed_iff.mpr shown⟩

/-- The focus outlives the controller: when its file is deleted no owner is expanded, and the focus stays. -/
theorem focus_on_deleted_cats :
    (catsAlone.run (focusCats ++ removeCats)).Reached ∧
      (catsAlone.run (focusCats ++ removeCats)).session.view.focusedOwner = some "Cats" ∧
      (catsAlone.run (focusCats ++ removeCats)).session.view.expandedOwners = [] := by
  refine ⟨⟨catsAlone, _, fresh_overDirectories (by decide), rfl⟩, ?_, ?_⟩ <;> decide +kernel

end Explorer

end RouteExplorer
