import RouteExplorer.Change.Event
import RouteExplorer.Proofs.Index.Freshness

namespace RouteExplorer

open Glob (PatternSet)

namespace ChangeEvent

def file? : ChangeEvent → Option FilePath
  | .created path | .deleted path | .saved path => some path
  | .configured _ | .rescan => none

def patterns? : ChangeEvent → Option PatternSet
  | .configured config => (FileIndex.patternsOf config).toOption
  | _ => none

/-- The patterns that some events bring in last. -/
def lastPatterns? (events : List ChangeEvent) : Option PatternSet := events.reverse.findSome? patterns?

/-- After a rescan, or with accepted patterns, nothing is known any more. -/
def resets (event : ChangeEvent) : Bool := event == .rescan || event.patterns?.isSome

/-- An event that says that the text of a file is not what it was. -/
def names (event : ChangeEvent) (path : FilePath) : Bool :=
  match event with
  | .deleted other | .saved other => other.same path
  | _ => false

/-- An event that asks to read a file again. -/
def reports (event : ChangeEvent) (path : FilePath) : Bool := event.resets || event.names path

theorem names_congr {left right : FilePath} (same : left.same right = true) (event : ChangeEvent) :
    event.names left = event.names right := by
  cases event with
  | deleted path | saved path => exact FilePath.same_congr same path
  | _ => rfl

theorem lastPatterns?_cons (event : ChangeEvent) (rest : List ChangeEvent) :
    lastPatterns? (event :: rest) = (lastPatterns? rest).or event.patterns? := by
  simp [lastPatterns?, List.findSome?_append]

/-- Whatever brings no patterns in can be left out. -/
theorem lastPatterns?_filter_of {keeps : ChangeEvent → Bool}
    (complete : ∀ event, event.patterns?.isSome = true → keeps event = true) (events : List ChangeEvent) :
    lastPatterns? (events.filter keeps) = lastPatterns? events := by
  induction events with
  | nil => rfl
  | cons event rest ih =>
    by_cases kept : keeps event = true
    · rw [List.filter_cons_of_pos kept, lastPatterns?_cons, lastPatterns?_cons, ih]
    · have none_brought : event.patterns? = none := by
        simpa using fun brings => kept (complete event brings)
      rw [List.filter_cons_of_neg kept, lastPatterns?_cons, ih, none_brought, Option.or_none]

theorem patterns?_of_not_resets {event : ChangeEvent} (stays : event.resets = false) :
    event.patterns? = none := by
  simp only [resets, Bool.or_eq_false_iff] at stays
  simpa using stays.2

theorem lastPatterns?_of_not_resets {events : List ChangeEvent}
    (stays : ∀ event ∈ events, event.resets = false) : lastPatterns? events = none := by
  apply List.findSome?_eq_none_iff.mpr
  intro event member
  exact patterns?_of_not_resets (stays event (List.mem_reverse.mp member))

end ChangeEvent

namespace Session

def absorb (session : Session) (event : ChangeEvent) : Session :=
  (session.absorb? event).getD session

def absorbed (session : Session) (events : List ChangeEvent) : Session :=
  events.foldl absorb session

/-- What is known after some events: nothing behind a reset, and otherwise all but the eligible files that
one of them names. -/
def leftBy (session : Session) (events : List ChangeEvent) : PathMap Controller :=
  if events.any ChangeEvent.resets then .empty
  else ⟨session.index.cache.entries.filter fun entry =>
    !(events.any (·.names entry.1) && session.isEligible entry.1)⟩

theorem absorb_created (session : Session) (path : FilePath) :
    session.absorb (.created path) = session := by
  by_cases eligible : session.isEligible path = true <;> simp [absorb, absorb?, eligible]

theorem absorb_deleted (session : Session) (path : FilePath) :
    session.absorb (.deleted path) =
      if session.isEligible path then session.invalidate path else session := by
  by_cases eligible : session.isEligible path = true <;> simp [absorb, absorb?, eligible]

theorem absorb_saved (session : Session) (path : FilePath) :
    session.absorb (.saved path) =
      if session.isEligible path then session.invalidate path else session := by
  by_cases eligible : session.isEligible path = true <;> simp [absorb, absorb?, eligible]

theorem absorb_configured (session : Session) (config : Config) :
    session.absorb (.configured config) =
      match (ChangeEvent.configured config).patterns? with
      | some patterns => session.withIndex ⟨session.index.roots, patterns, session.index.overlay, .empty⟩
      | none => session := by
  cases read : FileIndex.patternsOf config <;>
    simp [absorb, absorb?, applyConfig, FileIndex.setPatterns, FileIndex.dispose,
      ChangeEvent.patterns?, read, Except.toOption, bind, Except.bind]

theorem leftBy_of_resets (session : Session) {event : ChangeEvent} {events : List ChangeEvent}
    (member : event ∈ events) (resets : event.resets = true) : session.leftBy events = .empty :=
  if_pos (List.any_eq_true.mpr ⟨event, member, resets⟩)

theorem leftBy_of_not_resets (session : Session) {events : List ChangeEvent}
    (stays : ∀ event ∈ events, event.resets = false) :
    session.leftBy events = ⟨session.index.cache.entries.filter fun entry =>
      !(events.any (·.names entry.1) && session.isEligible entry.1)⟩ :=
  if_neg (by simpa using stays)

theorem leftBy_of_unnamed (session : Session) {event : ChangeEvent} (stays : event.resets = false)
    (unnamed : ∀ path, event.names path = false) : session.leftBy [event] = session.index.cache := by
  simp [leftBy, stays, unnamed]

private theorem erase_named (session : Session) (path : FilePath) :
    (if session.isEligible path then session.invalidate path else session) =
      session.withIndex { session.index with
        cache := ⟨session.index.cache.entries.filter fun entry =>
          !(path.same entry.1 && session.isEligible entry.1)⟩ } := by
  -- the spellings of the path are as eligible as the path
  have agree (entry : FilePath × Controller) :
      (path.same entry.1 && session.isEligible entry.1) = (path.same entry.1 && session.isEligible path) := by
    by_cases same : path.same entry.1 = true
    · exact congrArg _ (isEligible_congr session.index.roots session.index.patterns same).symm
    · simp [same]
  simp only [agree]
  by_cases eligible : session.isEligible path = true
  · rw [if_pos eligible, invalidate, FileIndex.invalidate, PathMap.erase]
    simp only [eligible, Bool.and_true, path.same_comm]
  · simp only [eligible, Bool.and_false, Bool.not_false, List.filter_true]
    rfl

/-- An event brings its patterns in and forgets what it names. -/
theorem absorb_eq (session : Session) (event : ChangeEvent) :
    session.absorb event = session.withIndex { session.index with
      patterns := event.patterns?.getD session.index.patterns, cache := session.leftBy [event] } := by
  cases event with
  | created path =>
    rw [absorb_created, leftBy_of_unnamed session rfl fun _ => rfl]
    rfl
  | deleted path =>
    rw [absorb_deleted, leftBy_of_not_resets session (by simp [ChangeEvent.resets, ChangeEvent.patterns?])]
    simp only [List.any_cons, List.any_nil, Bool.or_false]
    exact session.erase_named path
  | saved path =>
    rw [absorb_saved, leftBy_of_not_resets session (by simp [ChangeEvent.resets, ChangeEvent.patterns?])]
    simp only [List.any_cons, List.any_nil, Bool.or_false]
    exact session.erase_named path
  | configured config =>
    rw [absorb_configured]
    cases read : (ChangeEvent.configured config).patterns? with
    | some patterns =>
      rw [leftBy_of_resets session (List.mem_singleton_self _) (by simp [ChangeEvent.resets, read])]
      rfl
    | none =>
      rw [leftBy_of_unnamed session (by simp [ChangeEvent.resets, read]) fun _ => rfl]
      rfl
  | rescan => rfl

/-- An event concerns a session exactly when it resets it or is about an eligible file. -/
theorem absorb?_isSome (session : Session) (event : ChangeEvent) :
    (session.absorb? event).isSome =
      (event.resets || event.file?.any session.isEligible) := by
  cases event with
  | created path | deleted path | saved path =>
    by_cases eligible : session.isEligible path = true <;>
      simp [absorb?, eligible, ChangeEvent.resets, ChangeEvent.patterns?, ChangeEvent.file?]
  | configured config =>
    cases read : FileIndex.patternsOf config <;>
      simp [absorb?, applyConfig, FileIndex.setPatterns, ChangeEvent.resets, ChangeEvent.patterns?,
        ChangeEvent.file?, read, Except.toOption, bind, Except.bind]
  | rescan => rfl

theorem cache_absorb_of_resets (session : Session) {event : ChangeEvent} (resets : event.resets = true) :
    (session.absorb event).index.cache = .empty := by
  rw [absorb_eq, session.leftBy_of_resets (List.mem_singleton_self event) resets]
  rfl

theorem leftBy_cons (session : Session) (event : ChangeEvent) (rest : List ChangeEvent) :
    session.leftBy (event :: rest) = (session.absorb event).leftBy rest := by
  by_cases resets : event.resets = true
  · rw [session.leftBy_of_resets List.mem_cons_self resets, leftBy, session.cache_absorb_of_resets resets]
    split <;> rfl
  · have stays : event.resets = false := by simpa using resets
    have first : (session.absorb event).index.cache.entries = session.index.cache.entries.filter fun entry =>
        !(event.names entry.1 && session.isEligible entry.1) := by
      rw [absorb_eq, session.leftBy_of_not_resets (by simpa using stays)]
      simp only [List.any_cons, List.any_nil, Bool.or_false]
      rfl
    have eligible : (session.absorb event).isEligible = session.isEligible := by
      rw [absorb_eq, ChangeEvent.patterns?_of_not_resets stays]
      rfl
    simp only [leftBy, first, eligible, List.any_cons, stays, Bool.false_or, List.filter_filter]
    congr 3
    funext entry
    cases event.names entry.1 <;> cases session.isEligible entry.1 <;> simp

/-- Some events bring the patterns in that are accepted last, and forget what they name. -/
theorem absorbed_eq (session : Session) (events : List ChangeEvent) :
    session.absorbed events = session.withIndex { session.index with
      patterns := (ChangeEvent.lastPatterns? events).getD session.index.patterns
      cache := session.leftBy events } := by
  induction events generalizing session with
  | nil =>
    have everything : session.leftBy [] = session.index.cache := by simp [leftBy]
    rw [everything]
    rfl
  | cons event rest ih =>
    change (session.absorb event).absorbed rest = _
    rw [ih, leftBy_cons, absorb_eq, ChangeEvent.lastPatterns?_cons]
    cases ChangeEvent.lastPatterns? rest <;> rfl

theorem absorbed_frame (session : Session) (events : List ChangeEvent) :
    ∃ cache, session.absorbed events = session.withIndex { session.index with
      patterns := (ChangeEvent.lastPatterns? events).getD session.index.patterns
      cache := cache } :=
  ⟨_, session.absorbed_eq events⟩

/-- Without a reset the same files stay eligible. -/
theorem isEligible_absorbed {session : Session} {events : List ChangeEvent}
    (stays : ∀ event ∈ events, event.resets = false) :
    (session.absorbed events).isEligible = session.isEligible := by
  obtain ⟨cache, frame⟩ := session.absorbed_frame events
  rw [frame, ChangeEvent.lastPatterns?_of_not_resets stays]
  rfl

private theorem absorbAll_append_singleton (session : Session) (events : List ChangeEvent)
    (event : ChangeEvent) :
    session.absorbAll (events ++ [event]) =
      match (session.absorbAll events).2.absorb? event with
      | some next => (true, next)
      | none => session.absorbAll events := by
  unfold absorbAll
  rw [List.foldl_append]
  rfl

theorem absorbAll_snd (session : Session) (events : List ChangeEvent) :
    (session.absorbAll events).2 = session.absorbed events := by
  induction events using List.reverseRecOn with
  | nil => rfl
  | append_singleton front event ih =>
    rw [absorbAll_append_singleton, ih]
    have last : session.absorbed (front ++ [event]) = (session.absorbed front).absorb event := by
      simp [absorbed]
    rw [last, absorb]
    cases (session.absorbed front).absorb? event with
    | some next => rfl
    | none => exact ih

/-- Events concern a session when one of them resets it or is about a file that was eligible before. -/
theorem absorbAll_fst (session : Session) (events : List ChangeEvent) :
    (session.absorbAll events).1 =
      events.any fun event => event.resets || event.file?.any session.isEligible := by
  induction events using List.reverseRecOn with
  | nil => rfl
  | append_singleton front event ih =>
    rw [absorbAll_append_singleton, absorbAll_snd]
    have concerns := (session.absorbed front).absorb?_isSome event
    by_cases reset : ∃ earlier ∈ front, earlier.resets = true
    · obtain ⟨earlier, member, resets⟩ := reset
      have concerned : (session.absorbAll front).1 = true := by
        rw [ih]
        exact List.any_eq_true.mpr ⟨earlier, member, by simp [resets]⟩
      rw [List.any_append, ← ih, concerned]
      cases (session.absorbed front).absorb? event <;> simp [concerned]
    · have stays : ∀ earlier ∈ front, earlier.resets = false := by simpa using reset
      rw [isEligible_absorbed stays] at concerns
      rw [List.any_append, ← ih, List.any_cons, List.any_nil, Bool.or_false, ← concerns]
      cases (session.absorbed front).absorb? event <;> simp

theorem absorbAll_fst_cons (session : Session) (event : ChangeEvent) (rest : List ChangeEvent) :
    (session.absorbAll (event :: rest)).1 =
      ((session.absorbAll [event]).1 || ((session.absorb event).absorbAll rest).1) := by
  simp only [absorbAll_fst, List.any_cons, List.any_nil, Bool.or_false]
  by_cases resets : event.resets = true
  · simp [resets]
  · have same : (session.absorbed [event]).isEligible = session.isEligible :=
      isEligible_absorbed (by simpa using resets)
    change (session.absorb event).isEligible = session.isEligible at same
    rw [same]

/-- Events that do not concern a session leave it as it is. -/
theorem absorbed_of_unconcerned {session : Session} {events : List ChangeEvent}
    (unconcerned : (session.absorbAll events).1 = false) : session.absorbed events = session := by
  induction events with
  | nil => rfl
  | cons event rest ih =>
    rw [absorbAll_fst_cons, Bool.or_eq_false_iff] at unconcerned
    obtain ⟨first, later⟩ := unconcerned
    have stays : session.absorb event = session := by
      unfold absorb
      cases found : session.absorb? event with
      | none => rfl
      | some next => simp [absorbAll, found] at first
    rw [stays] at later
    change (session.absorb event).absorbed rest = session
    rw [stays, ih later]

/-- What is known of a file after some events: nothing after a reset, or when one of them names the file
and the file was eligible before them. -/
theorem absorbed_get? (session : Session) (events : List ChangeEvent) (path : FilePath) :
    (session.absorbed events).index.cache.get? path =
      if events.any fun event => event.resets || (event.names path && session.isEligible path) then none
      else session.index.cache.get? path := by
  rw [absorbed_eq]
  change (session.leftBy events).get? path = _
  by_cases reset : ∃ event ∈ events, event.resets = true
  · obtain ⟨event, member, resets⟩ := reset
    rw [session.leftBy_of_resets member resets, PathMap.get?_empty, if_pos]
    exact List.any_eq_true.mpr ⟨event, member, by simp [resets]⟩
  · have stays : ∀ event ∈ events, event.resets = false := by simpa using reset
    have respects (left right : FilePath) (same : left.same right = true) :
        (!(events.any (·.names left) && session.isEligible left)) =
          !(events.any (·.names right) && session.isEligible right) := by
      have eligible : session.isEligible left = session.isEligible right :=
        isEligible_congr session.index.roots session.index.patterns same
      simp only [ChangeEvent.names_congr same, eligible]
    have named : (events.any fun event => event.resets || (event.names path && session.isEligible path)) =
        (events.any (·.names path) && session.isEligible path) := by
      rw [Bool.eq_iff_iff]
      simp only [List.any_eq_true, Bool.or_eq_true, Bool.and_eq_true, ← exists_and_right, and_assoc]
      exact exists_congr fun event => and_congr_right fun member => by simp [stays event member]
    rw [session.leftBy_of_not_resets stays, PathMap.get?_filter _ respects, named]
    cases events.any (·.names path) && session.isEligible path <;> rfl

/-- Events leave nothing out of date but files that were so before and that no event reports. -/
theorem currentExcept_absorbed {session : Session} {disk : Disk} {exempt : FilePath → Prop}
    (current : session.index.CurrentExcept disk exempt) (events : List ChangeEvent) :
    (session.absorbed events).index.CurrentExcept disk fun path =>
      exempt path ∧ ∀ event ∈ events, event.reports path = false := by
  intro path known listed found
  rw [absorbed_get?] at found
  split at found
  · simp at found
  · next silent =>
    obtain ⟨stays, unnamed⟩ : (∀ event ∈ events, event.resets = false) ∧
        ∀ event ∈ events, event.names path = true → session.isEligible path = false := by
      simpa [forall_and] using silent
    obtain ⟨cache, frame⟩ := session.absorbed_frame events
    rw [ChangeEvent.lastPatterns?_of_not_resets stays] at frame
    rw [frame] at listed ⊢
    have eligible : session.isEligible path = true := FileIndex.isEligible_of_lists listed
    have unreported : ∀ event ∈ events, event.reports path = false := by
      intro event member
      have quiet : event.names path = false := by
        apply Bool.eq_false_iff.mpr
        intro named
        simp [unnamed event member named] at eligible
      simp [ChangeEvent.reports, stays event member, quiet]
    exact (current path known listed found).imp (fun outdated => ⟨outdated, unreported⟩) id

/-- Events that report whatever is out of date leave nothing so. -/
theorem current_absorbed {session : Session} {disk : Disk} {exempt : FilePath → Prop}
    (current : session.index.CurrentExcept disk exempt) {events : List ChangeEvent}
    (reported : ∀ path, exempt path → ∃ event ∈ events, event.reports path = true) :
    (session.absorbed events).index.Current disk := by
  intro path known listed found
  refine .inr ((currentExcept_absorbed current events path known listed found).resolve_left ?_)
  rintro ⟨outdated, unreported⟩
  obtain ⟨event, member, reports⟩ := reported path outdated
  simp [unreported event member] at reports

/-- A scan from scratch depends on the patterns that events leave, not on anything else they do. -/
theorem scanFromScratch_absorbed (session : Session) (disk : Disk) (events : List ChangeEvent) :
    (session.absorbed events).index.scanFromScratch disk =
      FileIndex.scanFromScratch { session.index with
        patterns := (ChangeEvent.lastPatterns? events).getD session.index.patterns } disk := by
  obtain ⟨cache, frame⟩ := session.absorbed_frame events
  rw [frame]
  rfl

end Session

end RouteExplorer
