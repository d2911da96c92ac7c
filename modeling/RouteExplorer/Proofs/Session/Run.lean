import RouteExplorer.Proofs.Change.Absorption
import RouteExplorer.Proofs.Index.Subscription

namespace RouteExplorer

open Glob (PatternSet)

/-- A disk and the session over it. -/
structure Explorer where
  disk : Disk
  session : Session

def Explorer.textOf? (explorer : Explorer) (path : FilePath) : Option String :=
  explorer.session.index.overlay.read? explorer.disk path

/-- What a session keeps through everything that does not refresh it: what is in view stays, and
nothing gets known. -/
structure Session.Idle (before after : Session) : Prop where
  snapshot : after.store.snapshot = before.store.snapshot
  searched : after.searched = before.searched
  controllers : after.grouping.controllers = before.grouping.controllers
  known : ∀ path known, after.index.cache.get? path = some known →
    before.index.cache.get? path = some known

namespace Session

theorem Idle.refl (session : Session) : session.Idle session := ⟨rfl, rfl, rfl, fun _ _ found => found⟩

theorem idle_absorbed (session : Session) (events : List ChangeEvent) :
    session.Idle (session.absorbed events) := by
  have known (path : FilePath) (known : Controller)
      (found : (session.absorbed events).index.cache.get? path = some known) :
      session.index.cache.get? path = some known := by
    rw [absorbed_get?] at found
    split at found
    · simp at found
    · exact found
  obtain ⟨cache, frame⟩ := session.absorbed_frame events
  rw [frame] at known ⊢
  exact ⟨rfl, rfl, rfl, known⟩

theorem idle_invalidate (session : Session) (path : FilePath) : session.Idle (session.invalidate path) :=
  ⟨rfl, rfl, rfl, fun _ _ found => (PathMap.get?_erase_eq_some.mp found).2⟩

theorem refresh_index (session : Session) (disk : Disk) :
    (session.refresh disk).2.index = (session.index.scan disk).2 :=
  session.store.refresh_index disk

theorem refresh_snapshot (session : Session) (disk : Disk) :
    (session.refresh disk).2.store.snapshot = (session.index.scan disk).1 :=
  session.store.refresh_snapshot disk

theorem refresh_overlay (session : Session) (disk : Disk) :
    (session.refresh disk).2.index.overlay = session.index.overlay := by
  obtain ⟨_, scans⟩ := session.index.scan_frame disk
  rw [refresh_index, scans]

theorem absorbed_overlay (session : Session) (events : List ChangeEvent) :
    (session.absorbed events).index.overlay = session.index.overlay := by
  obtain ⟨_, absorbs⟩ := session.absorbed_frame events
  rw [absorbs]
  rfl

/-- A session that is opened knows nothing and is refreshed once, over roots without detours. -/
theorem exists_of_ofRoots {disk : Disk} {roots : List FilePath} {config : Config} {session : Session}
    (opened : ofRoots disk roots config = .ok session) :
    ∃ patterns, FileIndex.patternsOf config = .ok patterns ∧
      session = ((ofStore (.ofIndex ⟨roots.map disk.canonical, patterns, .empty, .empty⟩)).refresh disk).2 := by
  cases read : FileIndex.patternsOf config with
  | error fault => simp [ofRoots, FileIndex.ofConfig, read, bind, Except.bind] at opened
  | ok patterns =>
    refine ⟨patterns, rfl, ?_⟩
    simpa [ofRoots, FileIndex.ofConfig, read, bind, Except.bind, eq_comm] using opened

theorem index_of_ofRoots {disk : Disk} {roots : List FilePath} {config : Config} {session : Session}
    (opened : ofRoots disk roots config = .ok session) :
    ∃ patterns cache, FileIndex.patternsOf config = .ok patterns ∧
      session.index = ⟨roots.map disk.canonical, patterns, .empty, cache⟩ := by
  obtain ⟨patterns, accepted, rfl⟩ := exists_of_ofRoots opened
  obtain ⟨cache, scans⟩ := FileIndex.scan_frame ⟨roots.map disk.canonical, patterns, .empty, .empty⟩ disk
  refine ⟨patterns, cache, accepted, ?_⟩
  rw [refresh_index]
  exact scans

theorem refresh_follows (session : Session) (disk : Disk) :
    (session.refresh disk).2.searched = (session.refresh disk).2.store.snapshot.routes ∧
      (session.refresh disk).2.grouping.controllers =
        (session.refresh disk).2.store.snapshot.controllers :=
  ⟨rfl, rfl⟩

theorem applyBatch_eq (session : Session) (disk : Disk) (events : List ChangeEvent) :
    session.applyBatch disk events =
      if (session.absorbAll events).1 then (true, ((session.absorbed events).refresh disk).2)
      else (false, session.absorbed events) := by
  rw [← absorbAll_snd]
  unfold applyBatch
  rcases session.absorbAll events with ⟨concerned, next⟩
  cases concerned <;> rfl

theorem applyBatch_fst (session : Session) (disk : Disk) (events : List ChangeEvent) :
    (session.applyBatch disk events).1 = (session.absorbAll events).1 := by
  rw [applyBatch_eq]
  split
  · next concerned => exact concerned.symm
  · next unconcerned => simpa using unconcerned

/-- A batch changes nothing of an index but the patterns and what is known. -/
theorem applyBatch_index (session : Session) (disk : Disk) (events : List ChangeEvent) :
    ∃ cache, (session.applyBatch disk events).2.index = { session.index with
      patterns := (ChangeEvent.lastPatterns? events).getD session.index.patterns
      cache := cache } := by
  obtain ⟨known, absorbs⟩ := session.absorbed_frame events
  rw [applyBatch_eq]
  split
  · obtain ⟨cache, scans⟩ := (session.absorbed events).index.scan_frame disk
    rw [refresh_index, scans, absorbs]
    exact ⟨cache, rfl⟩
  · rw [absorbs]
    exact ⟨known, rfl⟩

theorem applyBatch_patterns (session : Session) (disk : Disk) (events : List ChangeEvent) :
    (session.applyBatch disk events).2.index.patterns =
      (ChangeEvent.lastPatterns? events).getD session.index.patterns := by
  obtain ⟨_, index⟩ := session.applyBatch_index disk events
  rw [index]

theorem applyBatch_overlay (session : Session) (disk : Disk) (events : List ChangeEvent) :
    (session.applyBatch disk events).2.index.overlay = session.index.overlay := by
  obtain ⟨_, index⟩ := session.applyBatch_index disk events
  rw [index]

/-- When events concern a session and leave nothing out of date, the batch shows what a scan from
scratch finds. -/
theorem applyBatch_snapshot {session : Session} {disk : Disk} (sound : disk.Sound)
    {events : List ChangeEvent} (concerned : (session.absorbAll events).1 = true)
    (current : (session.absorbed events).index.Current disk) :
    (session.applyBatch disk events).2.store.snapshot =
      (session.absorbed events).index.scanFromScratch disk := by
  rw [applyBatch_eq, if_pos concerned, refresh_snapshot]
  exact current.scan_eq_scratch sound

end Session

namespace Explorer

/-- What can happen to a session and to the disk below it. -/
inductive Action where
  | changeDisk (disk : Disk) (sound : disk.Sound)
  | openBuffer (path : FilePath) (text : String) (version : Int)
  | updateBuffer (path : FilePath) (text : String) (version : Int)
  | closeBuffer (path : FilePath)
  | apply (event : ChangeEvent)
  | applyBatch (events : List ChangeEvent)
  | applyConfig (config : Config)
  | invalidate (path : FilePath)
  | dispose
  | refresh
  | searchGrouped (query : String)
  | searchFlat (query : String)
  | toggleOwner (owner : String)
  | toggleDisplayMode

def act (disk : Disk) (session : Session) : Action → Session
  | .changeDisk _ _ => session
  | .openBuffer path text version =>
    session.withOverlay (session.index.overlay.openBuffer path text version)
  | .updateBuffer path text version =>
    session.withOverlay (session.index.overlay.updateBuffer path text version)
  | .closeBuffer path => session.withOverlay (session.index.overlay.closeBuffer path)
  | .apply event => (session.apply disk event).2
  | .applyBatch events => (session.applyBatch disk events).2
  | .applyConfig config => (session.applyConfig config).toOption.getD session
  | .invalidate path => session.invalidate path
  | .dispose => session.dispose
  | .refresh => (session.refresh disk).2
  | .searchGrouped query => (session.searchGrouped query).2
  | .searchFlat query => (session.searchFlat query).2
  | .toggleOwner owner => session.toggleOwner owner
  | .toggleDisplayMode => session.toggleDisplayMode

def diskAfter (disk : Disk) : Action → Disk
  | .changeDisk next _ => next
  | _ => disk

def step (explorer : Explorer) (action : Action) : Explorer :=
  ⟨diskAfter explorer.disk action, act explorer.disk explorer.session action⟩

def run (explorer : Explorer) (actions : List Action) : Explorer := actions.foldl step explorer

def Action.edits : Action → Bool
  | .changeDisk _ _ | .openBuffer _ _ _ | .updateBuffer _ _ _ | .closeBuffer _ => true
  | _ => false

theorem run_append (explorer : Explorer) (front back : List Action) :
    explorer.run (front ++ back) = (explorer.run front).run back := by
  simp [run]

/-- The session that an action is about to refresh, if it refreshes one. -/
def refreshed? (session : Session) : Action → Option Session
  | .refresh => some session
  | .apply event => if (session.absorbAll [event]).1 then some (session.absorbed [event]) else none
  | .applyBatch events =>
    if (session.absorbAll events).1 then some (session.absorbed events) else none
  | _ => none

/-- A session over a store that was never refreshed, with nothing known. -/
structure Fresh (explorer : Explorer) : Prop where
  sound : explorer.disk.Sound
  unknown : explorer.session.index.cache = .empty
  idle : explorer.session = .ofStore (.ofIndex explorer.session.index)

theorem Fresh.current {explorer : Explorer} (fresh : explorer.Fresh) :
    explorer.session.index.Current explorer.disk := by
  intro path known _ found
  simp [fresh.unknown, PathMap.get?_empty] at found

/-- After its first refresh a session knows nothing but what is there. -/
theorem Fresh.current_refresh {explorer : Explorer} (fresh : explorer.Fresh) :
    (explorer.step .refresh).session.index.Current explorer.disk := by
  have index : (explorer.step .refresh).session.index = _ := explorer.session.refresh_index explorer.disk
  rw [index]
  exact fresh.current.scan fresh.sound

/-- A state that some run leads to. -/
def Reached (explorer : Explorer) : Prop :=
  ∃ start actions, Fresh start ∧ explorer = start.run actions

theorem Reached.run {explorer : Explorer} (reached : explorer.Reached) (actions : List Action) :
    (explorer.run actions).Reached := by
  obtain ⟨start, before, fresh, rfl⟩ := reached
  exact ⟨start, before ++ actions, fresh, (start.run_append before actions).symm⟩

theorem reached_of_ofRoots {disk : Disk} {roots : List FilePath} {config : Config} {session : Session}
    (sound : disk.Sound) (opened : Session.ofRoots disk roots config = .ok session) :
    Reached ⟨disk, session⟩ := by
  obtain ⟨patterns, _, rfl⟩ := Session.exists_of_ofRoots opened
  exact ⟨⟨disk, .ofStore (.ofIndex _)⟩, [.refresh], ⟨sound, rfl, rfl⟩, rfl⟩

theorem sound_step {explorer : Explorer} (sound : explorer.disk.Sound) (action : Action) :
    (explorer.step action).disk.Sound := by
  cases action with
  | changeDisk disk later => exact later
  | _ => exact sound

theorem sound_run {explorer : Explorer} (sound : explorer.disk.Sound) (actions : List Action) :
    (explorer.run actions).disk.Sound := by
  induction actions generalizing explorer with
  | nil => exact sound
  | cons action rest ih => exact ih (sound_step sound action)

theorem roots_step (explorer : Explorer) (action : Action) :
    (explorer.step action).session.index.roots = explorer.session.index.roots := by
  have batch (events : List ChangeEvent) :
      (explorer.session.applyBatch explorer.disk events).2.index.roots = explorer.session.index.roots := by
    obtain ⟨_, index⟩ := explorer.session.applyBatch_index explorer.disk events
    rw [index]
  cases action with
  | apply event => exact batch [event]
  | applyBatch events => exact batch events
  | applyConfig config =>
    obtain ⟨_, frame⟩ := explorer.session.absorbed_frame [.configured config]
    exact congrArg (·.index.roots) frame
  | refresh =>
    obtain ⟨_, frame⟩ := explorer.session.index.scan_frame explorer.disk
    have scanned := (explorer.session.refresh_index explorer.disk).trans frame
    exact (congrArg FileIndex.roots scanned :)
  | _ => rfl

theorem roots_run (explorer : Explorer) (actions : List Action) :
    (explorer.run actions).session.index.roots = explorer.session.index.roots := by
  induction actions generalizing explorer with
  | nil => rfl
  | cons action rest ih => exact (ih (explorer.step action)).trans (explorer.roots_step action)

private theorem step_applyBatch (explorer : Explorer) (events : List ChangeEvent) :
    (∃ session, refreshed? explorer.session (.applyBatch events) = some session ∧
        explorer.session.Idle session ∧
        explorer.step (.applyBatch events) = ⟨explorer.disk, (session.refresh explorer.disk).2⟩) ∨
      (refreshed? explorer.session (.applyBatch events) = none ∧
        explorer.session.Idle (explorer.step (.applyBatch events)).session) := by
  have idle := explorer.session.idle_absorbed events
  simp only [refreshed?, step, act, diskAfter, Session.applyBatch_eq]
  split
  · exact .inl ⟨_, rfl, idle, rfl⟩
  · exact .inr ⟨rfl, idle⟩

/-- An action refreshes a session or leaves it idle, and up to the refresh all are idle. -/
theorem step_cases (explorer : Explorer) (action : Action) :
    (∃ session, refreshed? explorer.session action = some session ∧
        explorer.session.Idle session ∧
        explorer.step action = ⟨explorer.disk, (session.refresh explorer.disk).2⟩) ∨
      (refreshed? explorer.session action = none ∧
        explorer.session.Idle (explorer.step action).session) := by
  cases action with
  | refresh => exact .inl ⟨explorer.session, rfl, .refl _, rfl⟩
  | apply event => exact step_applyBatch explorer [event]
  | applyBatch events => exact step_applyBatch explorer events
  | applyConfig config =>
    exact .inr ⟨rfl, explorer.session.idle_absorbed [.configured config]⟩
  | invalidate path => exact .inr ⟨rfl, explorer.session.idle_invalidate path⟩
  | dispose => exact .inr ⟨rfl, explorer.session.idle_absorbed [.rescan]⟩
  | _ => exact .inr ⟨rfl, ⟨rfl, rfl, rfl, fun _ _ found => found⟩⟩

theorem textOf?_step (explorer : Explorer) {action : Action} (quiet : action.edits = false) :
    (explorer.step action).textOf? = explorer.textOf? := by
  have overlay : (explorer.step action).session.index.overlay = explorer.session.index.overlay := by
    cases action with
    | changeDisk | openBuffer | updateBuffer | closeBuffer => simp [Action.edits] at quiet
    | apply event => exact explorer.session.applyBatch_overlay explorer.disk [event]
    | applyBatch events => exact explorer.session.applyBatch_overlay explorer.disk events
    | applyConfig config => exact explorer.session.absorbed_overlay [.configured config]
    | refresh => exact explorer.session.refresh_overlay explorer.disk
    | _ => rfl
  have disk : (explorer.step action).disk = explorer.disk := by
    cases action with
    | changeDisk => simp [Action.edits] at quiet
    | _ => rfl
  funext path
  rw [textOf?, overlay, disk]
  rfl

def controllerText (name members : String) : String :=
  "@Controller()class " ++ name ++ "\x7b" ++ members ++ "\x7d"

/-- A disk with directories below its root and a file `a.ts` with a text in each of them. -/
def diskOf (texts : List (String × String)) : Disk :=
  ⟨[], texts.flatMap fun (name, text) => [([name], .directory), ([name, "a.ts"], .text text)]⟩

/-- A fresh session over those directories which looks for `*.ts`. -/
def overDirectories (texts : List (String × String)) : Explorer :=
  let roots := texts.map fun (name, _) => Disk.pathOf [name]
  let patterns := (PatternSet.parse ["*.ts"] []).toOption.getD ⟨[], [], []⟩
  ⟨diskOf texts, .ofStore (.ofIndex ⟨roots, patterns, .empty, .empty⟩)⟩

theorem fresh_overDirectories {texts : List (String × String)} (sound : (diskOf texts).Sound) :
    (overDirectories texts).Fresh :=
  ⟨sound, rfl, rfl⟩

end Explorer

end RouteExplorer
