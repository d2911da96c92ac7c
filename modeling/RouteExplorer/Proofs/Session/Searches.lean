import RouteExplorer.Proofs.Session.Run

namespace RouteExplorer

namespace Search.Grouping

/-- Groupings that build the same results, whatever their views remember. -/
structure BuildsLike (left right : Grouping) : Prop where
  controllers : left.controllers = right.controllers
  collapsed : left.collapsed = right.collapsed
  displayMode : left.view.displayMode = right.view.displayMode

variable {left right : Grouping}

theorem BuildsLike.trans {first second third : Grouping} (before : first.BuildsLike second)
    (behind : second.BuildsLike third) : first.BuildsLike third where
  controllers := before.controllers.trans behind.controllers
  collapsed := before.collapsed.trans behind.collapsed
  displayMode := before.displayMode.trans behind.displayMode

theorem BuildsLike.toggleOwner (alike : left.BuildsLike right) (owner : String) :
    (left.toggleOwner owner).BuildsLike (right.toggleOwner owner) where
  controllers := alike.controllers
  collapsed := congrArg (fun collapsed : List String =>
    if collapsed.contains owner then collapsed.filter (· != owner) else owner :: collapsed) alike.collapsed
  displayMode := alike.displayMode

theorem BuildsLike.group (alike : left.BuildsLike right) : left.group = right.group := by
  funext controller matched score
  simp only [Grouping.group, isExpanded, alike.collapsed]

theorem BuildsLike.totalEndpoints (alike : left.BuildsLike right) : left.totalEndpoints = right.totalEndpoints := by
  rw [Grouping.totalEndpoints, alike.controllers]
  rfl

theorem BuildsLike.result (alike : left.BuildsLike right) : left.result = right.result := by
  funext matched query
  simp only [Grouping.result, rankedGroups, allGroups, alike.controllers, alike.displayMode, alike.group,
    alike.totalEndpoints]

theorem BuildsLike.initialResult (alike : left.BuildsLike right) : left.initialResult = right.initialResult := by
  simp only [Grouping.initialResult, alike.controllers, alike.displayMode, alike.group, alike.totalEndpoints]

end Search.Grouping

namespace Session

/-- Sessions that answer alike: they differ at most in what their views remember of searches. -/
structure AnswersLike (left right : Session) : Prop where
  store : left.store = right.store
  searched : left.searched = right.searched
  grouping : left.grouping.BuildsLike right.grouping

variable {left right : Session}

theorem AnswersLike.refl (session : Session) : session.AnswersLike session := ⟨rfl, rfl, rfl, rfl, rfl⟩

theorem AnswersLike.trans {first second third : Session} (before : first.AnswersLike second)
    (behind : second.AnswersLike third) : first.AnswersLike third where
  store := before.store.trans behind.store
  searched := before.searched.trans behind.searched
  grouping := before.grouping.trans behind.grouping

theorem AnswersLike.searchFlat (alike : left.AnswersLike right) (query : String) :
    (left.searchFlat query).1 = (right.searchFlat query).1 :=
  congrArg (Search.search · query) alike.searched

theorem AnswersLike.searchGrouped (alike : left.AnswersLike right) (query : String) :
    (left.searchGrouped query).1 = (right.searchGrouped query).1 := by
  have builds : (left.grouping.setQuery query).sync.BuildsLike (right.grouping.setQuery query).sync :=
    ⟨alike.grouping.controllers, alike.grouping.collapsed, alike.grouping.displayMode⟩
  simp only [Session.searchGrouped, builds.initialResult, builds.result, alike.searched]

theorem AnswersLike.index (alike : left.AnswersLike right) : left.index = right.index :=
  congrArg Store.index alike.store

theorem AnswersLike.withIndex (alike : left.AnswersLike right) (index : FileIndex) :
    (left.withIndex index).AnswersLike (right.withIndex index) :=
  ⟨congrArg (fun store : Store => { store with index := index }) alike.store, alike.searched, alike.grouping⟩

theorem AnswersLike.refresh (alike : left.AnswersLike right) (disk : Disk) :
    (left.refresh disk).2.AnswersLike (right.refresh disk).2 := by
  have store : (left.store.refresh disk).2 = (right.store.refresh disk).2 := by rw [alike.store]
  exact ⟨store, congrArg (·.snapshot.routes) store, congrArg (·.snapshot.controllers) store,
    alike.grouping.collapsed, alike.grouping.displayMode⟩

theorem AnswersLike.absorbed (alike : left.AnswersLike right) (events : List ChangeEvent) :
    (left.absorbed events).AnswersLike (right.absorbed events) := by
  rw [absorbed_eq, absorbed_eq]
  simp only [leftBy, isEligible, alike.index]
  exact alike.withIndex _

theorem AnswersLike.applyBatch (alike : left.AnswersLike right) (disk : Disk) (events : List ChangeEvent) :
    (left.applyBatch disk events).2.AnswersLike (right.applyBatch disk events).2 := by
  have absorbed := alike.absorbed events
  have eligible : left.isEligible = right.isEligible := by
    funext path
    rw [isEligible, alike.index]
    rfl
  rw [applyBatch_eq, applyBatch_eq, absorbAll_fst, absorbAll_fst, eligible]
  split
  · exact absorbed.refresh disk
  · exact absorbed

end Session

namespace Explorer

def Action.searches : Action → Bool
  | .searchGrouped _ | .searchFlat _ => true
  | _ => false

variable {left right : Session}

/-- The same action keeps sessions answering alike. -/
theorem answersLike_act (alike : left.AnswersLike right) (disk : Disk) (action : Action) :
    (act disk left action).AnswersLike (act disk right action) := by
  cases action with
  | changeDisk => exact alike
  | openBuffer | updateBuffer | closeBuffer | invalidate =>
    simp only [act, Session.withOverlay, Session.invalidate, alike.index]
    exact alike.withIndex _
  | apply event => exact alike.applyBatch disk [event]
  | applyBatch events => exact alike.applyBatch disk events
  | applyConfig config => exact alike.absorbed [.configured config]
  | dispose => exact alike.absorbed [.rescan]
  | refresh => exact alike.refresh disk
  | searchGrouped | searchFlat =>
    exact ⟨alike.store, alike.searched, alike.grouping.controllers, alike.grouping.collapsed,
      alike.grouping.displayMode⟩
  | toggleOwner owner => exact ⟨alike.store, alike.searched, alike.grouping.toggleOwner owner⟩
  | toggleDisplayMode =>
    exact ⟨alike.store, alike.searched, alike.grouping.controllers, alike.grouping.collapsed,
      congrArg Search.DisplayMode.toggled alike.grouping.displayMode⟩

theorem answersLike_of_searches (session : Session) (disk : Disk) {action : Action}
    (searches : action.searches = true) : (act disk session action).AnswersLike session := by
  cases action with
  | searchGrouped | searchFlat => exact ⟨rfl, rfl, rfl, rfl, rfl⟩
  | _ => cases searches

/-- A run and the same run without its searches lead to sessions that answer alike. -/
theorem answersLike_run (disk : Disk) (alike : left.AnswersLike right) (actions : List Action) :
    (run ⟨disk, left⟩ actions).session.AnswersLike
      (run ⟨disk, right⟩ (actions.filter fun action => !action.searches)).session := by
  induction actions generalizing disk left right with
  | nil => exact alike
  | cons action rest ih =>
    by_cases searches : action.searches = true
    · have stays : diskAfter disk action = disk := by
        cases action with
        | changeDisk => cases searches
        | _ => rfl
      rw [List.filter_cons_of_neg (by simp [searches])]
      change (run ⟨diskAfter disk action, act disk left action⟩ rest).session.AnswersLike _
      rw [stays]
      exact ih disk ((answersLike_of_searches left disk searches).trans alike)
    · rw [List.filter_cons_of_pos (by simpa using searches)]
      exact ih (diskAfter disk action) (answersLike_act alike disk action)

end Explorer

end RouteExplorer
