import Mathlib.Data.List.Induction
import Mathlib.Data.List.Nodup
import RouteExplorer.Proofs.Workspace.Overlay

namespace RouteExplorer

/-- A text of a file in some version. -/
structure Draft where
  text : String
  version : Int
deriving DecidableEq

namespace Draft

def buffer (draft : Draft) : Buffer := ⟨draft.text, draft.version, false⟩

/-- The latest of some drafts in the order of their arrival: none has a greater version, and those behind it
have lesser ones. -/
def IsLatest (drafts : List Draft) (latest : Draft) : Prop :=
  ∃ before behind, drafts = before ++ latest :: behind ∧
    (∀ draft ∈ before, draft.version ≤ latest.version) ∧ ∀ draft ∈ behind, draft.version < latest.version

/-- The draft that is kept of one and the next one to arrive. -/
def replacedBy (kept next : Draft) : Draft := if next.version < kept.version then kept else next

/-- The buffer that shows a draft shows behind an update the one of both that is kept. -/
theorem updated_buffer (kept next : Draft) :
    Buffer.updated next.text next.version (some kept.buffer) = some (kept.replacedBy next).buffer := by
  by_cases outdated : next.version < kept.version <;> simp [Buffer.updated, buffer, replacedBy, outdated]

variable {drafts others : List Draft} {latest : Draft}

theorem IsLatest.mem (isLatest : IsLatest drafts latest) : latest ∈ drafts := by
  obtain ⟨before, behind, rfl, _, _⟩ := isLatest
  simp

theorem IsLatest.version_le (isLatest : IsLatest drafts latest) :
    ∀ draft ∈ drafts, draft.version ≤ latest.version := by
  obtain ⟨before, behind, rfl, not_greater, lesser⟩ := isLatest
  intro draft member
  rcases List.mem_append.mp member with early | late
  · exact not_greater draft early
  · rcases List.mem_cons.mp late with same | behind
    · exact same ▸ Int.le_refl _
    · exact Int.le_of_lt (lesser draft behind)

theorem IsLatest.append_singleton (isLatest : IsLatest drafts latest) (next : Draft) :
    IsLatest (drafts ++ [next]) (latest.replacedBy next) := by
  unfold replacedBy
  split
  · next outdated =>
    obtain ⟨before, behind, rfl, not_greater, lesser⟩ := isLatest
    refine ⟨before, behind ++ [next], by simp, not_greater, fun draft member => ?_⟩
    rcases List.mem_append.mp member with earlier | last
    · exact lesser draft earlier
    · exact List.mem_singleton.mp last ▸ outdated
  · next newest =>
    refine ⟨drafts, [], rfl, fun draft member => ?_, by simp⟩
    exact Int.le_trans (isLatest.version_le draft member) (Int.not_lt.mp newest)

theorem isLatest_foldl (first : Draft) (drafts : List Draft) :
    IsLatest (first :: drafts) (drafts.foldl replacedBy first) := by
  induction drafts using List.reverseRecOn with
  | nil => exact ⟨[], [], rfl, by simp, by simp⟩
  | append_singleton front last ih =>
    rw [List.foldl_append]
    exact ih.append_singleton last

/-- Of drafts with distinct versions the latest does not depend on the order of their arrival. -/
theorem IsLatest.eq_of_perm {other : Draft} (isLatest : IsLatest drafts latest) (too : IsLatest others other)
    (rearranged : drafts.Perm others) (distinct : (drafts.map Draft.version).Nodup) : latest = other := by
  have among := rearranged.mem_iff.mpr too.mem
  have same := Int.le_antisymm (too.version_le latest (rearranged.mem_iff.mp isLatest.mem))
    (isLatest.version_le other among)
  exact List.inj_on_of_nodup_map distinct isLatest.mem among same

end Draft

namespace Overlay

inductive Action where
  | openBuffer (path : FilePath) (text : String) (version : Int)
  | updateBuffer (path : FilePath) (text : String) (version : Int)
  | closeBuffer (path : FilePath)

namespace Action

def path : Action → FilePath
  | .openBuffer path _ _ | .updateBuffer path _ _ | .closeBuffer path => path

def change : Action → Option Buffer → Option Buffer
  | .openBuffer _ text version => Buffer.opened text version
  | .updateBuffer _ text version => Buffer.updated text version
  | .closeBuffer _ => Buffer.closed

/-- Whether an action is about a file, by whatever spelling of its path. -/
def concerns (file : FilePath) (action : Action) : Bool := action.path.same file

def draftOf? (file : FilePath) : Action → Option Draft
  | .updateBuffer path text version => if path.same file then some ⟨text, version⟩ else none
  | _ => none

end Action

def act (overlay : Overlay) : Action → Overlay
  | .openBuffer path text version => overlay.openBuffer path text version
  | .updateBuffer path text version => overlay.updateBuffer path text version
  | .closeBuffer path => overlay.closeBuffer path

def run (overlay : Overlay) (actions : List Action) : Overlay := actions.foldl act overlay

variable {overlay : Overlay} {file : FilePath}

theorem get?_act (overlay : Overlay) (action : Action) (file : FilePath) :
    (overlay.act action).buffers.get? file =
      if action.concerns file then action.change (overlay.buffers.get? file) else overlay.buffers.get? file := by
  cases action with
  | openBuffer path text version => exact overlay.edits_openBuffer path text version file
  | updateBuffer path text version => exact overlay.edits_updateBuffer path text version file
  | closeBuffer path => exact overlay.edits_closeBuffer path file

/-- The buffer of a file follows from what was done to that file. -/
theorem get?_run (overlay : Overlay) (file : FilePath) (actions : List Action) :
    (overlay.run actions).buffers.get? file =
      (actions.filter (Action.concerns file)).foldl (fun buffer action => action.change buffer)
        (overlay.buffers.get? file) := by
  induction actions generalizing overlay with
  | nil => rfl
  | cons action rest ih =>
    change ((overlay.act action).run rest).buffers.get? file = _
    rw [ih, get?_act]
    by_cases concerns : action.concerns file = true
    · rw [if_pos concerns, List.filter_cons_of_pos concerns, List.foldl_cons]
    · rw [if_neg concerns, List.filter_cons_of_neg concerns]

theorem get?_run_concerns (overlay : Overlay) (file : FilePath) (actions : List Action) :
    (overlay.run actions).buffers.get? file =
      (overlay.run (actions.filter (Action.concerns file))).buffers.get? file := by
  rw [get?_run, get?_run, List.filter_filter]
  simp only [Bool.and_self]

/-- A file is only updated, neither closed nor opened again. -/
def OnlyUpdates (file : FilePath) (actions : List Action) : Prop :=
  ∀ action ∈ actions, action.concerns file = true → (action.draftOf? file).isSome = true

instance (file : FilePath) (actions : List Action) : Decidable (OnlyUpdates file actions) :=
  inferInstanceAs <| Decidable <|
    ∀ action ∈ actions, action.concerns file = true → (action.draftOf? file).isSome = true

theorem get?_act_of_updates {action : Action} (updates : OnlyUpdates file [action]) {draft : Draft}
    (shows : overlay.buffers.get? file = some draft.buffer) :
    (overlay.act action).buffers.get? file =
      some ((action.draftOf? file).elim draft draft.replacedBy).buffer := by
  rw [get?_act, shows]
  by_cases concerns : action.concerns file = true
  · obtain ⟨next, drafted⟩ := Option.isSome_iff_exists.mp (updates action (by simp) concerns)
    rw [if_pos concerns, drafted]
    cases action with
    | updateBuffer path text version =>
      obtain rfl := Option.some.inj (Option.ite_none_right_eq_some.mp drafted).2
      exact draft.updated_buffer ⟨text, version⟩
    | _ => cases drafted
  · have elsewhere : action.draftOf? file = none := by
      cases action with
      | updateBuffer => exact if_neg concerns
      | _ => rfl
    rw [if_neg concerns, elsewhere]
    rfl

/-- A buffer that is only updated shows what is kept of all drafts, one after another. -/
theorem get?_run_of_updates {actions : List Action} (updates : OnlyUpdates file actions) {draft : Draft}
    (shows : overlay.buffers.get? file = some draft.buffer) :
    (overlay.run actions).buffers.get? file =
      some ((actions.filterMap (Action.draftOf? file)).foldl Draft.replacedBy draft).buffer := by
  induction actions generalizing overlay draft with
  | nil => exact shows
  | cons action rest ih =>
    obtain ⟨update, updates_rest⟩ := List.forall_mem_cons.mp updates
    have changed := get?_act_of_updates (List.forall_mem_singleton.mpr update) shows
    change ((overlay.act action).run rest).buffers.get? file = _
    rw [ih updates_rest changed, List.filterMap_cons]
    cases action.draftOf? file <;> rfl

theorem exists_isLatest (overlay : Overlay) (opened : Draft) {actions : List Action}
    (updates : OnlyUpdates file actions) :
    ∃ latest, Draft.IsLatest (opened :: actions.filterMap (Action.draftOf? file)) latest ∧
      ((overlay.openBuffer file opened.text opened.version).run actions).buffers.get? file =
        some latest.buffer := by
  have shows : (overlay.openBuffer file opened.text opened.version).buffers.get? file = some opened.buffer :=
    PathMap.get?_insert_of_same _ _ _ _ file.same_refl
  exact ⟨_, Draft.isLatest_foldl opened _, get?_run_of_updates updates shows⟩

theorem read?_of_get? {draft : Draft} (shows : overlay.buffers.get? file = some draft.buffer) (disk : Disk) :
    overlay.read? disk file = some draft.text := by
  rw [read?, openAt?, shows]
  rfl

/-- A file that was opened and then only updated shows the latest of its drafts, and with distinct versions
the same in whatever order the updates arrive. What is done to other files never shows. -/
theorem drafts_converge (overlay : Overlay) (file : FilePath) (opened : Draft) :
    let start := overlay.openBuffer file opened.text opened.version
    let drafts (actions : List Action) := opened :: actions.filterMap (Action.draftOf? file)
    (∀ actions, OnlyUpdates file actions →
        ∃ latest, Draft.IsLatest (drafts actions) latest ∧
          (start.run actions).buffers.get? file = some latest.buffer ∧
          ∀ disk, (start.run actions).read? disk file = some latest.text) ∧
      (∀ actions others, OnlyUpdates file actions → OnlyUpdates file others →
        (drafts actions).Perm (drafts others) → ((drafts actions).map Draft.version).Nodup →
          ∀ disk, (start.run actions).read? disk file = (start.run others).read? disk file) ∧
      ∀ actions, let concerned := actions.filter (Action.concerns file)
        (overlay.run actions).isOpen file = (overlay.run concerned).isOpen file ∧
          ∀ disk, (overlay.run actions).read? disk file = (overlay.run concerned).read? disk file := by
  refine ⟨fun actions updates => ?_, fun actions others updates too rearranged distinct disk => ?_,
    fun actions => ?_⟩
  · obtain ⟨latest, isLatest, shows⟩ := overlay.exists_isLatest opened updates
    exact ⟨latest, isLatest, shows, read?_of_get? shows⟩
  · obtain ⟨latest, isLatest, shows⟩ := overlay.exists_isLatest opened updates
    obtain ⟨other, too_latest, too_shows⟩ := overlay.exists_isLatest opened too
    rw [read?_of_get? shows, read?_of_get? too_shows, isLatest.eq_of_perm too_latest rearranged distinct]
  · have same := overlay.get?_run_concerns file actions
    exact ⟨by simp only [isOpen, openAt?, same], fun disk => by simp only [read?, openAt?, same]⟩

def catsFile : FilePath := ⟨"/w/cats.ts"⟩

def dogsFile : FilePath := ⟨"/w/dogs.ts"⟩

def closedCats : Overlay := (empty.openBuffer catsFile "old" 9).closeBuffer catsFile

def catsUpdates : List Action :=
  [.openBuffer dogsFile "dogs" 1, .updateBuffer ⟨"/w//cats.ts"⟩ "second" 2, .updateBuffer catsFile "first" 1,
    .closeBuffer dogsFile, .updateBuffer catsFile "early" (-5)]

def catsUpdatesInOrder : List Action :=
  [.updateBuffer catsFile "early" (-5), .updateBuffer catsFile "first" 1, .updateBuffer catsFile "second" 2]

theorem catsUpdates_converge :
    let start := closedCats.openBuffer catsFile "opened" 0
    let drafts (actions : List Action) :=
      (⟨"opened", 0⟩ : Draft) :: actions.filterMap (Action.draftOf? catsFile)
    OnlyUpdates catsFile catsUpdates ∧ OnlyUpdates catsFile catsUpdatesInOrder ∧
      (drafts catsUpdates).Perm (drafts catsUpdatesInOrder) ∧
      ((drafts catsUpdates).map Draft.version).Nodup ∧
      (∃ latest, Draft.IsLatest (drafts catsUpdates) latest ∧
        (start.run catsUpdates).buffers.get? catsFile = some latest.buffer ∧
        ∀ disk, (start.run catsUpdates).read? disk catsFile = some latest.text) ∧
      (∀ disk, (start.run catsUpdates).read? disk catsFile =
        (start.run catsUpdatesInOrder).read? disk catsFile) ∧
      (start.run catsUpdates).buffers.get? catsFile = some ⟨"second", 2, false⟩ := by
  intro start drafts
  have updates : OnlyUpdates catsFile catsUpdates := by decide +kernel
  have in_order : OnlyUpdates catsFile catsUpdatesInOrder := by decide +kernel
  have rearranged : (drafts catsUpdates).Perm (drafts catsUpdatesInOrder) := by decide +kernel
  have distinct : ((drafts catsUpdates).map Draft.version).Nodup := by decide +kernel
  obtain ⟨shows, converges, _⟩ := closedCats.drafts_converge catsFile ⟨"opened", 0⟩
  exact ⟨updates, in_order, rearranged, distinct, shows catsUpdates updates,
    converges catsUpdates catsUpdatesInOrder updates in_order rearranged distinct, by decide +kernel⟩

end Overlay

end RouteExplorer
