import RouteExplorer.Proofs.Session.Run

/-!
Refreshes against scans from scratch, over whole runs. A change of a text is answered when an action
after it reports the file, or refreshes a session that has to read the file. What a refresh shows is
what a scan from scratch finds, unless a change was never answered.
-/
namespace RouteExplorer.Explorer

/-- The action changes the text of a file that is eligible. -/
def ChangesText (explorer : Explorer) (action : Action) (path : FilePath) : Prop :=
  explorer.session.isEligible path = true ∧ (explorer.step action).textOf? path ≠ explorer.textOf? path

def Action.reports (action : Action) (path : FilePath) : Bool :=
  match action with
  | .apply event => event.reports path
  | .applyBatch events => events.any (·.reports path)
  | .applyConfig config => (ChangeEvent.configured config).reports path
  | .invalidate other => other.same path
  | .dispose => true
  | _ => false

/-- The action refreshes a session that lists a file of which nothing is known. -/
def Rereads (explorer : Explorer) (action : Action) (path : FilePath) : Prop :=
  ∃ session, refreshed? explorer.session action = some session ∧
    path ∈ session.index.files explorer.disk ∧ session.index.cache.get? path = none

/-- The action reports a file or reads it. -/
def Answers (explorer : Explorer) (action : Action) (path : FilePath) : Prop :=
  action.reports path = true ∨ explorer.Rereads action path

/-- Some action of a run answers for a file. -/
def Answered (explorer : Explorer) : List Action → FilePath → Prop
  | [], _ => False
  | action :: rest, path => explorer.Answers action path ∨ Answered (explorer.step action) rest path

/-- Some action of a run changes the text of a file, and none after it answers. -/
def Unanswered (explorer : Explorer) : List Action → FilePath → Prop
  | [], _ => False
  | action :: rest, path =>
    (explorer.ChangesText action path ∧ ¬Answered (explorer.step action) rest path) ∨
      Unanswered (explorer.step action) rest path

variable {explorer : Explorer} {exempt : FilePath → Prop}

/-- What an action leaves out of date, given what was out of date before it. -/
private def StepCurrent (explorer : Explorer) (exempt : FilePath → Prop) (action : Action) : Prop :=
  (explorer.step action).session.index.CurrentExcept (explorer.step action).disk fun path =>
    (exempt path ∧ ¬explorer.Answers action path) ∨ explorer.ChangesText action path

/-- Where an action forgets nothing and reads nothing, only a text that changes goes out of date. -/
private theorem stepCurrent_of_same {action : Action}
    (current : explorer.session.index.CurrentExcept explorer.disk exempt)
    (silent : ∀ path, ¬explorer.Answers action path)
    (same : (explorer.step action).session.index =
      { explorer.session.index with overlay := (explorer.step action).session.index.overlay }) :
    StepCurrent explorer exempt action := by
  intro path known listed found
  have was_listed : explorer.session.index.Lists path := by
    rw [same] at listed
    exact listed
  have was_known : explorer.session.index.cache.get? path = some known := by
    rw [same] at found
    exact found
  by_cases unchanged : (explorer.step action).textOf? path = explorer.textOf? path
  · rcases current path known was_listed was_known with outdated | parsed
    · exact .inl (.inl ⟨outdated, silent path⟩)
    · refine .inr ?_
      change ((explorer.step action).textOf? path).bind (Controller.ofText? path) = some known
      rw [unchanged]
      exact parsed
  · exact .inl (.inr ⟨FileIndex.isEligible_of_lists was_listed, unchanged⟩)

/-- Where an action hands over events, what they report is forgotten, and what is not known is read. -/
private theorem stepCurrent_of_batch {action : Action} {events : List ChangeEvent}
    (sound : explorer.disk.Sound) (current : explorer.session.index.CurrentExcept explorer.disk exempt)
    (acts : explorer.step action = ⟨explorer.disk, (explorer.session.applyBatch explorer.disk events).2⟩)
    (refreshes : refreshed? explorer.session action =
      if (explorer.session.absorbAll events).1 then some (explorer.session.absorbed events) else none)
    (reports : ∀ path, action.reports path = events.any (·.reports path)) :
    StepCurrent explorer exempt action := by
  have absorbed := Session.currentExcept_absorbed current events
  have unreported {path : FilePath} (quiet : ∀ event ∈ events, event.reports path = false) :
      ¬action.reports path = true := by
    rw [reports]
    simpa using quiet
  unfold StepCurrent
  rw [acts, Session.applyBatch_eq]
  split
  · next concerned =>
    rw [if_pos concerned] at refreshes
    intro path known listed found
    simp only [Session.refresh_index] at listed found ⊢
    refine (absorbed.scan sound path known listed found).imp ?_ id
    rintro ⟨⟨outdated, quiet⟩, unread⟩
    refine .inl ⟨outdated, ?_⟩
    rintro (reported | ⟨session, refreshed, reads⟩)
    · exact unreported quiet reported
    · obtain rfl := Option.some.inj (refreshes.symm.trans refreshed)
      exact unread reads
  · next unconcerned =>
    rw [if_neg unconcerned] at refreshes
    intro path known listed found
    refine (absorbed path known listed found).imp ?_ id
    rintro ⟨outdated, quiet⟩
    refine .inl ⟨outdated, ?_⟩
    rintro (reported | ⟨session, refreshed, _⟩)
    · exact unreported quiet reported
    · rw [refreshes] at refreshed
      simp at refreshed

private theorem stepCurrent (sound : explorer.disk.Sound)
    (current : explorer.session.index.CurrentExcept explorer.disk exempt) (action : Action) :
    StepCurrent explorer exempt action := by
  have silent {action : Action} (quiet : ∀ path, action.reports path = false)
      (still : refreshed? explorer.session action = none) (path : FilePath) :
      ¬explorer.Answers action path := by
    rintro (reported | ⟨session, refreshed, _⟩)
    · simp [quiet path] at reported
    · simp [still] at refreshed
  cases action with
  | apply event =>
    exact stepCurrent_of_batch sound current rfl rfl fun path => by simp [Action.reports]
  | applyBatch events => exact stepCurrent_of_batch sound current rfl rfl fun _ => rfl
  | applyConfig config =>
    intro path known listed found
    refine (Session.currentExcept_absorbed current [.configured config] path known listed found).imp ?_ id
    rintro ⟨outdated, quiet⟩
    refine .inl ⟨outdated, ?_⟩
    rintro (reported | ⟨session, refreshed, _⟩)
    · have unreported := quiet _ (List.mem_singleton.mpr rfl)
      exact absurd (unreported.symm.trans reported) (by simp)
    · simp [refreshed?] at refreshed
  | invalidate other =>
    intro path known listed found
    obtain ⟨different, earlier⟩ := PathMap.get?_erase_eq_some.mp found
    refine (current path known listed earlier).imp (fun outdated => .inl ⟨outdated, ?_⟩) id
    rintro (reported | ⟨session, refreshed, _⟩)
    · exact absurd (different.symm.trans reported) (by simp)
    · simp [refreshed?] at refreshed
  | dispose =>
    intro path known _ found
    exact absurd (show none = some known from found) (by simp)
  | refresh =>
    intro path known listed found
    simp only [step, act, diskAfter, Session.refresh_index] at listed found ⊢
    refine (current.scan sound path known listed found).imp ?_ id
    rintro ⟨outdated, unread⟩
    refine .inl ⟨outdated, ?_⟩
    rintro (reported | ⟨session, refreshed, reads⟩)
    · simp [Action.reports] at reported
    · obtain rfl := Option.some.inj refreshed
      exact unread reads
  | _ => exact stepCurrent_of_same current (silent (fun _ => rfl) rfl) rfl

/-- At each point of a run the only files known wrongly are those with unanswered changes. -/
theorem currentExcept_run (sound : explorer.disk.Sound)
    (current : explorer.session.index.CurrentExcept explorer.disk exempt) (actions : List Action) :
    (explorer.run actions).session.index.CurrentExcept (explorer.run actions).disk fun path =>
      (exempt path ∧ ¬explorer.Answered actions path) ∨ explorer.Unanswered actions path := by
  induction actions generalizing explorer exempt with
  | nil =>
    intro path known listed found
    exact (current path known listed found).imp (fun outdated => .inl ⟨outdated, id⟩) id
  | cons action rest ih =>
    intro path known listed found
    refine (ih (sound_step sound action) (stepCurrent sound current action) path known listed found).imp
      ?_ id
    rintro (⟨⟨outdated, silent⟩ | changed, unanswered⟩ | later)
    · exact .inl ⟨outdated, not_or.mpr ⟨silent, unanswered⟩⟩
    · exact .inr (.inl ⟨changed, unanswered⟩)
    · exact .inr (.inr later)

/-- Whatever happened before, right after a refresh the store holds what a scan from scratch finds, if
every change of the text of a listed file was answered. -/
theorem snapshot_eq_scanFromScratch {start : Explorer} {actions : List Action} {last : Action}
    (fresh : start.Fresh) (refreshes : (refreshed? (start.run actions).session last).isSome = true)
    (answered : ∀ path,
      path ∈ (start.run (actions ++ [last])).session.index.files (start.run (actions ++ [last])).disk →
        ¬start.Unanswered (actions ++ [last]) path) :
    (start.run (actions ++ [last])).session.store.snapshot =
      (start.run (actions ++ [last])).session.index.scanFromScratch (start.run (actions ++ [last])).disk := by
  have sound := sound_run fresh.sound actions
  have current := currentExcept_run fresh.sound fresh.current (actions ++ [last])
  have ends : start.run (actions ++ [last]) = (start.run actions).step last :=
    run_append start actions [last]
  rcases (start.run actions).step_cases last with ⟨session, _, _, steps⟩ | ⟨still, _⟩
  · rw [ends, steps] at current answered ⊢
    simp only [Session.refresh_index, Session.refresh_snapshot, FileIndex.files_scan,
      FileIndex.scanFromScratch_scan] at current answered ⊢
    apply FileIndex.scan_eq_scratch_of_known_after sound
    intro path member known found
    have listed := FileIndex.lists_of_mem_files sound ((FileIndex.files_scan _ _).symm ▸ member)
    rcases current path known listed found with outdated | parsed
    · rcases outdated with ⟨never, _⟩ | unanswered
      · exact never.elim
      · exact absurd unanswered (answered path member)
    · rwa [FileIndex.parse?_scan] at parsed
  · simp [still] at refreshes

def savedStart : Explorer := overDirectories [("w", controllerText "Cats" "")]

def savedRun : List Action :=
  [.refresh, .changeDisk (diskOf [("w", controllerText "Dogs" "")]) (by decide)]

private theorem files_savedRun :
    (savedStart.run (savedRun ++ [.apply (.saved ⟨"/w/a.ts"⟩)])).session.index.files
      (savedStart.run (savedRun ++ [.apply (.saved ⟨"/w/a.ts"⟩)])).disk = [⟨"/w/a.ts"⟩] := by
  decide +kernel

theorem snapshot_after_save :
    (savedStart.run (savedRun ++ [.apply (.saved ⟨"/w/a.ts"⟩)])).session.store.snapshot =
      (savedStart.run (savedRun ++ [.apply (.saved ⟨"/w/a.ts"⟩)])).session.index.scanFromScratch
        (savedStart.run (savedRun ++ [.apply (.saved ⟨"/w/a.ts"⟩)])).disk ∧
      (savedStart.run (savedRun ++ [.apply (.saved ⟨"/w/a.ts"⟩)])).session.store.snapshot.controllers.map
        Controller.name = ["Dogs"] := by
  refine ⟨snapshot_eq_scanFromScratch (fresh_overDirectories (by decide)) (by decide +kernel) ?_, by decide +kernel⟩
  intro path listed unanswered
  rw [files_savedRun] at listed
  obtain rfl := List.mem_singleton.mp listed
  rcases unanswered with ⟨changed, _⟩ | ⟨_, silent⟩ | ⟨changed, _⟩ | never
  · exact changed.2 (congrFun (textOf?_step _ rfl) _)
  · exact silent (.inl (.inl (by decide +kernel)))
  · exact changed.2 (congrFun (textOf?_step _ rfl) _)
  · exact never

end RouteExplorer.Explorer
