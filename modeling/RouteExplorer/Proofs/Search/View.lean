import Mathlib.Algebra.Group.Nat.Even
import Mathlib.Data.List.Induction
import RouteExplorer.Search.Grouping

namespace RouteExplorer.Search

/-- What a user does to a view. -/
inductive Gesture where
  | search (query : String)
  | toggleDisplayMode
  | toggleOwner (owner : String)
deriving DecidableEq, Repr

namespace Gesture

def query? : Gesture → Option String
  | .search query => some query
  | _ => none

def owner? : Gesture → Option String
  | .toggleOwner owner => some owner
  | _ => none

end Gesture

/-- What the user has chosen of a view; every name of an owner is expanded or not, known or not. -/
@[ext]
structure Choice where
  displayMode : DisplayMode
  query : String
  focusedOwner : Option String
  expanded : String → Bool

namespace Choice

def initial : Choice := ⟨.flat, "", none, fun _ => true⟩

/-- The choice after one more gesture. An expanded owner gets the focus, a collapsed one takes it away. -/
def after (choice : Choice) : Gesture → Choice
  | .search query => { choice with query := query }
  | .toggleDisplayMode => { choice with displayMode := choice.displayMode.toggled }
  | .toggleOwner owner => { choice with
      focusedOwner := if choice.expanded owner then none else some owner
      expanded := fun name => if name = owner then !choice.expanded owner else choice.expanded name }

/-- What a choice has to do with the gestures that led to it. -/
structure Reflects (choice : Choice) (gestures : List Gesture) : Prop where
  displayMode : choice.displayMode = .flat ↔ Even (gestures.count .toggleDisplayMode)
  expanded (owner : String) : choice.expanded owner = true ↔ Even (gestures.count (.toggleOwner owner))
  focusedOwner (owner : String) : choice.focusedOwner = some owner ↔
    (gestures.filterMap Gesture.owner?).getLast? = some owner ∧ choice.expanded owner = true
  query : choice.query = (gestures.filterMap Gesture.query?).getLast?.getD ""

theorem reflects_initial : initial.Reflects [] :=
  ⟨by simp [initial], by simp [initial], by simp [initial], rfl⟩

theorem toggled_eq_flat (mode : DisplayMode) : mode.toggled = .flat ↔ ¬mode = .flat := by
  cases mode <;> decide

variable {choice : Choice} {gestures : List Gesture}

theorem Reflects.search (reflects : choice.Reflects gestures) (query : String) :
    (choice.after (.search query)).Reflects (gestures ++ [.search query]) where
  displayMode := by simpa [Choice.after] using reflects.displayMode
  expanded := by simpa [Choice.after] using reflects.expanded
  focusedOwner := by simpa [Choice.after, Gesture.owner?] using reflects.focusedOwner
  query := by simp [Choice.after, Gesture.query?]

theorem Reflects.toggleDisplayMode (reflects : choice.Reflects gestures) :
    (choice.after .toggleDisplayMode).Reflects (gestures ++ [.toggleDisplayMode]) where
  displayMode := by
    rw [Choice.after, toggled_eq_flat, reflects.displayMode]
    simp [Nat.even_add_one]
  expanded := by simpa [Choice.after] using reflects.expanded
  focusedOwner := by simpa [Choice.after, Gesture.owner?] using reflects.focusedOwner
  query := by simpa [Choice.after, Gesture.query?] using reflects.query

theorem Reflects.toggleOwner (reflects : choice.Reflects gestures) (owner : String) :
    (choice.after (.toggleOwner owner)).Reflects (gestures ++ [.toggleOwner owner]) where
  displayMode := by simpa [Choice.after] using reflects.displayMode
  expanded name := by
    by_cases same : name = owner
    · subst same
      simp [Choice.after, Nat.even_add_one, ← reflects.expanded name]
    · simpa [Choice.after, same, Ne.symm same] using reflects.expanded name
  focusedOwner name := by
    -- only the owner of this gesture can have the focus, and it was expanded or gets so now
    by_cases same : owner = name
    · subst same
      cases expanded : choice.expanded owner <;> simp [Choice.after, Gesture.owner?, expanded]
    · simp [Choice.after, Gesture.owner?, same]
  query := by simpa [Choice.after, Gesture.query?] using reflects.query

theorem Reflects.after (reflects : choice.Reflects gestures) (gesture : Gesture) :
    (choice.after gesture).Reflects (gestures ++ [gesture]) := by
  cases gesture with
  | search query => exact reflects.search query
  | toggleDisplayMode => exact reflects.toggleDisplayMode
  | toggleOwner owner => exact reflects.toggleOwner owner

theorem reflects_foldl (gestures : List Gesture) : (gestures.foldl Choice.after initial).Reflects gestures := by
  induction gestures using List.reverseRecOn with
  | nil => exact reflects_initial
  | append_singleton front last ih =>
    rw [List.foldl_append]
    exact ih.after last

end Choice

namespace Grouping

/-- What the user has chosen of the view. -/
def choice (grouping : Grouping) : Choice :=
  ⟨grouping.view.displayMode, grouping.view.searchQuery, grouping.view.focusedOwner, grouping.isExpanded⟩

/-- The view lists the expanded ones of the known controllers, in order. -/
def Listed (grouping : Grouping) : Prop :=
  grouping.view.expandedOwners = (grouping.controllers.map Controller.name).filter grouping.isExpanded

theorem listed_sync (grouping : Grouping) : grouping.sync.Listed := rfl

theorem isExpanded_toggleOwner (grouping : Grouping) (owner name : String) :
    (grouping.toggleOwner owner).isExpanded name =
      if name = owner then !grouping.isExpanded owner else grouping.isExpanded name := by
  change (!List.contains (if grouping.collapsed.contains owner then grouping.collapsed.filter (· != owner)
    else owner :: grouping.collapsed) name) = _
  unfold isExpanded
  by_cases collapsed : owner ∈ grouping.collapsed <;> by_cases same : name = owner
  all_goals simp [collapsed, same]

theorem choice_toggleOwner (grouping : Grouping) (owner : String) :
    (grouping.toggleOwner owner).choice = grouping.choice.after (.toggleOwner owner) := by
  have focused : (grouping.toggleOwner owner).view.focusedOwner =
      if (grouping.toggleOwner owner).isExpanded owner then some owner else none := rfl
  apply Choice.ext
  · rfl
  · rfl
  · rw [choice, focused, isExpanded_toggleOwner]
    cases expanded : grouping.isExpanded owner <;> simp [Choice.after, choice, expanded]
  · funext name
    exact grouping.isExpanded_toggleOwner owner name

inductive Action where
  | updateControllers (controllers : List Controller)
  | setQuery (query : String)
  | toggleDisplayMode
  | toggleOwner (owner : String)
  | buildResult (matched : List MatchedRoute) (query : String)
  | buildInitialResult

namespace Action

def controllers? : Action → Option (List Controller)
  | .updateControllers controllers => some controllers
  | _ => none

def gesture? : Action → Option Gesture
  | .setQuery query => some (.search query)
  | .toggleDisplayMode => some .toggleDisplayMode
  | .toggleOwner owner => some (.toggleOwner owner)
  | _ => none

end Action

/-- A grouping after an action. To build a result lists the expanded owners again. -/
def act (grouping : Grouping) : Action → Grouping
  | .updateControllers controllers => grouping.updateControllers controllers
  | .setQuery query => grouping.setQuery query
  | .toggleDisplayMode => grouping.toggleDisplayMode
  | .toggleOwner owner => grouping.toggleOwner owner
  | .buildResult _ _ | .buildInitialResult => grouping.sync

/-- The result that an action builds. -/
def built? (grouping : Grouping) : Action → Option SearchResult
  | .buildResult matched query => some (grouping.result matched query)
  | .buildInitialResult => some grouping.initialResult
  | _ => none

def run (grouping : Grouping) (actions : List Action) : Grouping := actions.foldl act grouping

variable {grouping : Grouping}

theorem choice_act (grouping : Grouping) (action : Action) :
    (grouping.act action).choice = action.gesture?.elim grouping.choice grouping.choice.after := by
  cases action with
  | toggleOwner owner => exact grouping.choice_toggleOwner owner
  | _ => rfl

theorem choice_run (grouping : Grouping) (actions : List Action) :
    (grouping.run actions).choice =
      (actions.filterMap Action.gesture?).foldl Choice.after grouping.choice := by
  induction actions generalizing grouping with
  | nil => rfl
  | cons action rest ih =>
    rw [List.filterMap_cons]
    change ((grouping.act action).run rest).choice = _
    rw [ih, choice_act]
    cases action.gesture? <;> rfl

theorem Listed.act (listed : grouping.Listed) (action : Action) : (grouping.act action).Listed := by
  cases action with
  | setQuery | toggleDisplayMode => exact listed
  | _ => rfl

theorem Listed.run (listed : grouping.Listed) (actions : List Action) : (grouping.run actions).Listed := by
  induction actions generalizing grouping with
  | nil => exact listed
  | cons action rest ih => exact ih (listed.act action)

theorem controllers_act (grouping : Grouping) (action : Action) :
    (grouping.act action).controllers = action.controllers?.getD grouping.controllers := by
  cases action <;> rfl

theorem controllers_run (grouping : Grouping) (actions : List Action) :
    (grouping.run actions).controllers =
      (actions.filterMap Action.controllers?).getLast?.getD grouping.controllers := by
  induction actions using List.reverseRecOn with
  | nil => rfl
  | append_singleton front last ih =>
    have acts : grouping.run (front ++ [last]) = (grouping.run front).act last := by
      rw [run, List.foldl_append]
      rfl
    rw [acts, controllers_act, ih]
    cases updates : last.controllers? <;> simp [updates]

theorem mem_rankedGroups {grouping : Grouping} {matched : List MatchedRoute} {query : String}
    {group : OwnerGroup} (member : group ∈ grouping.rankedGroups matched query) :
    ∃ controller ∈ grouping.controllers, group = grouping.group controller
      (ownedBy controller.name matched) (MeanScore.ofMatches (ownedBy controller.name matched)) := by
  have present : group ∈ grouping.allGroups matched := by
    unfold rankedGroups at member
    split at member
    · exact member
    · exact (List.mem_filter.mp (List.mem_mergeSort.mp member)).1
  obtain ⟨controller, known, same⟩ := List.mem_map.mp present
  exact ⟨controller, known, same.symm⟩

theorem displayMode_of_built {action : Action} {result : SearchResult}
    (built : grouping.built? action = some result) : result.displayMode = grouping.view.displayMode := by
  cases action with
  | buildResult | buildInitialResult =>
    cases built
    rfl
  | _ => cases built

theorem isExpanded_of_built {action : Action} {result : SearchResult}
    (built : grouping.built? action = some result) :
    ∀ group ∈ result.grouped, group.isExpanded = grouping.isExpanded group.ownerName := by
  intro group member
  cases action with
  | buildResult matched query =>
    cases built
    obtain ⟨controller, _, rfl⟩ := mem_rankedGroups member
    rfl
  | buildInitialResult =>
    cases built
    obtain ⟨controller, _, rfl⟩ := List.mem_map.mp member
    rfl
  | _ => cases built

/-- A view follows from the gestures of its user and the controllers of the last update: the display is flat
after an even number of toggles, owners are expanded that were toggled an even number of times, known or not,
and the focus is on the owner that was toggled last if that is expanded. Every result tells the same. -/
theorem view_of_history (start : List Controller) (actions : List Action) :
    let last := (ofControllers start).run actions
    let gestures := actions.filterMap Action.gesture?
    let known := (actions.filterMap Action.controllers?).getLast?.getD start
    (last.view.displayMode = .flat ↔ Even (gestures.count .toggleDisplayMode)) ∧
      (∀ owner, last.isExpanded owner = true ↔ Even (gestures.count (.toggleOwner owner))) ∧
      last.view.expandedOwners = (known.map Controller.name).filter last.isExpanded ∧
      (∀ owner, last.view.focusedOwner = some owner ↔
        (gestures.filterMap Gesture.owner?).getLast? = some owner ∧ last.isExpanded owner = true) ∧
      last.view.searchQuery = (gestures.filterMap Gesture.query?).getLast?.getD "" ∧
      ∀ action result, last.built? action = some result →
        result.displayMode = last.view.displayMode ∧
          ∀ group ∈ result.grouped, group.isExpanded = last.isExpanded group.ownerName := by
  intro last gestures known
  have chosen : last.choice = gestures.foldl Choice.after Choice.initial := choice_run (ofControllers start) actions
  have reflects : last.choice.Reflects gestures := chosen ▸ Choice.reflects_foldl gestures
  have listed : last.Listed := (listed_sync _).run actions
  have controllers : last.controllers = known := controllers_run (ofControllers start) actions
  refine ⟨reflects.displayMode, reflects.expanded, ?_, reflects.focusedOwner, reflects.query, ?_⟩
  · rw [listed, controllers]
  · intro action result built
    exact ⟨displayMode_of_built built, isExpanded_of_built built⟩

def namedController (name : String) : Controller := ⟨name, "", ⟨name⟩, []⟩

def toggledOwners : List Action :=
  [.toggleOwner "Cats", .toggleOwner "Dogs", .setQuery "a", .toggleDisplayMode, .buildResult [] "a",
    .updateControllers [namedController "Birds", namedController "Dogs"], .toggleOwner "Birds",
    .toggleOwner "Cats"]

theorem toggledOwners_viewed :
    let last := (ofControllers [namedController "Cats"]).run toggledOwners
    let birds := last.group (namedController "Birds") [] MeanScore.zero
    last.view = ⟨.grouped, [], some "Cats", "a"⟩ ∧
      last.built? .buildInitialResult = some last.initialResult ∧
      birds ∈ last.initialResult.grouped ∧
      last.initialResult.displayMode = last.view.displayMode ∧
      birds.isExpanded = last.isExpanded birds.ownerName := by
  intro last birds
  have viewed : last.view = ⟨.grouped, [], some "Cats", "a"⟩ := by decide
  have member : birds ∈ last.initialResult.grouped := by decide
  obtain ⟨_, _, _, _, _, told⟩ := view_of_history [namedController "Cats"] toggledOwners
  obtain ⟨mode, groups⟩ := told .buildInitialResult last.initialResult rfl
  exact ⟨viewed, rfl, member, mode, groups birds member⟩

end Grouping

end RouteExplorer.Search
