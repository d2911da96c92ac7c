import RouteExplorer.Proofs.Change.Coalescing

namespace RouteExplorer.PendingBatch

open ChangeEvent (firstConfigurations)

inductive Action where
  | push (event : ChangeEvent)
  | take

def act (batch : PendingBatch) : Action → PendingBatch
  | .push event => batch.push event
  | .take => batch.take.2

def run (batch : PendingBatch) (actions : List Action) : PendingBatch := actions.foldl act batch

/-- The events that were pushed since the last take, in order. -/
def pushedSinceTake (actions : List Action) : List ChangeEvent :=
  actions.foldl (fun events action =>
    match action with
    | .push event => events ++ [event]
    | .take => []) []

/-- A batch in which nothing is held twice, no event about a file besides a rescan, and no more such events than
the limit. -/
structure Tidy (batch : PendingBatch) : Prop where
  distinct : batch.events.Pairwise fun earlier later => earlier.same later = false
  alone : .rescan ∈ batch.events → ∀ event ∈ batch.events, event.file? = none
  bounded : batch.events.countP (·.file?.isSome) ≤ batch.limit

variable {batch : PendingBatch} {event : ChangeEvent}

/-- A push leaves a batch as it is, collapses it, or adds the event; it adds one about a file only while no
rescan is held and the batch is below its limit. -/
theorem push_cases (batch : PendingBatch) (event : ChangeEvent) :
    batch.push event = batch ∨ batch.push event = batch.collapse ∨
      (batch.push event = { batch with events := batch.events ++ [event] } ∧
        batch.holds event = false ∧ event ≠ .rescan ∧
        (event.isConfigured = true ∨ batch.holds .rescan = false ∧ batch.events.length < batch.limit)) := by
  unfold push
  split
  · exact .inl rfl
  next absent =>
  have absent : batch.holds event = false := by simpa using absent
  split
  · next configured =>
    have proper : event ≠ .rescan := fun same => by simp [same] at configured
    exact .inr (.inr ⟨rfl, absent, proper, .inl configured⟩)
  split
  · exact .inl rfl
  next alone =>
  split
  · exact .inr (.inl rfl)
  next room =>
  simp only [Bool.or_eq_true, beq_iff_eq, decide_eq_true_eq, not_or, Nat.not_le] at room
  exact .inr (.inr ⟨rfl, absent, room.1, .inr ⟨by simpa using alone, room.2⟩⟩)

theorem limit_push (batch : PendingBatch) (event : ChangeEvent) : (batch.push event).limit = batch.limit := by
  rcases batch.push_cases event with same | collapsed | ⟨added, _⟩
  · rw [same]
  · rw [collapsed]
    rfl
  · rw [added]

/-- Whatever a push leaves was there before, or it is the event or a rescan. -/
theorem mem_push {held : ChangeEvent} (member : held ∈ (batch.push event).events) :
    held ∈ batch.events ∨ held = event ∨ held = .rescan := by
  rcases batch.push_cases event with same | collapsed | ⟨added, _⟩
  · exact .inl (same ▸ member)
  · rw [collapsed, collapse, List.mem_append, List.mem_singleton] at member
    exact member.imp (fun kept => (List.mem_filter.mp kept).1) .inr
  · rw [added, List.mem_append, List.mem_singleton] at member
    exact member.imp id .inl

theorem file?_eq_none_of_isConfigured (configured : event.isConfigured = true) : event.file? = none := by
  cases event with
  | configured => rfl
  | _ => cases configured

theorem not_same_of_not_holds (absent : batch.holds event = false) {held : ChangeEvent}
    (member : held ∈ batch.events) : held.same event = false := by
  simpa using List.any_eq_false.mp absent held member

theorem tidy_ofLimit (limit : Nat) : (ofLimit limit).Tidy :=
  ⟨.nil, fun _ _ member => absurd member List.not_mem_nil, Nat.zero_le _⟩

theorem Tidy.nodup (tidy : batch.Tidy) : batch.events.Nodup := by
  refine tidy.distinct.imp ?_
  rintro earlier later different rfl
  simp [earlier.same_refl] at different

theorem Tidy.collapse (tidy : batch.Tidy) : batch.collapse.Tidy := by
  have configured {kept : ChangeEvent} (member : kept ∈ batch.events.filter ChangeEvent.isConfigured) :
      kept.isConfigured = true :=
    (List.mem_filter.mp member).2
  have no_file : ∀ event ∈ batch.collapse.events, event.file? = none := by
    intro event member
    rcases List.mem_append.mp member with kept | added
    · exact file?_eq_none_of_isConfigured (configured kept)
    · rw [List.mem_singleton.mp added]
      rfl
  refine ⟨?_, fun _ => no_file, ?_⟩
  · refine List.pairwise_append.mpr ⟨tidy.distinct.filter _, List.pairwise_singleton _ _, ?_⟩
    intro kept member other added
    rw [List.mem_singleton.mp added]
    cases kept with
    | configured => rfl
    | _ => cases configured member
  · have none_counted : batch.collapse.events.countP (·.file?.isSome) = 0 :=
      List.countP_eq_zero.mpr fun event member => by simp [no_file event member]
    rw [none_counted]
    exact Nat.zero_le _

theorem Tidy.push (tidy : batch.Tidy) (event : ChangeEvent) : (batch.push event).Tidy := by
  rcases batch.push_cases event with same | collapsed | ⟨added, absent, proper, reason⟩
  · exact same.symm ▸ tidy
  · exact collapsed ▸ tidy.collapse
  rw [added]
  refine ⟨?_, ?_, ?_⟩
  · refine List.pairwise_append.mpr ⟨tidy.distinct, List.pairwise_singleton _ _, ?_⟩
    intro held member other last
    rw [List.mem_singleton.mp last]
    exact not_same_of_not_holds absent member
  · intro rescans other member
    have earlier : .rescan ∈ batch.events := by
      rcases List.mem_append.mp rescans with earlier | last
      · exact earlier
      · exact absurd (List.mem_singleton.mp last).symm proper
    rcases List.mem_append.mp member with held | last
    · exact tidy.alone earlier other held
    · rw [List.mem_singleton.mp last]
      rcases reason with configured | ⟨alone, _⟩
      · exact file?_eq_none_of_isConfigured configured
      · exact absurd (not_same_of_not_holds alone earlier) (by simp [ChangeEvent.same_refl])
  · rw [List.countP_append]
    rcases reason with configured | ⟨_, room⟩
    · have idle : [event].countP (·.file?.isSome) = 0 := by simp [file?_eq_none_of_isConfigured configured]
      rw [idle]
      exact tidy.bounded
    · -- below the limit there is room for one more, whatever the events are about
      have before := List.countP_le_length (p := fun event : ChangeEvent => event.file?.isSome) (l := batch.events)
      have one := List.countP_le_length (p := fun event : ChangeEvent => event.file?.isSome) (l := [event])
      simp only [List.length_singleton] at one
      exact Nat.le_trans (Nat.add_le_add before one) room

theorem limit_foldl_push (batch : PendingBatch) (events : List ChangeEvent) :
    (events.foldl push batch).limit = batch.limit := by
  induction events generalizing batch with
  | nil => rfl
  | cons event rest ih => rw [List.foldl_cons, ih, limit_push]

theorem Tidy.foldl_push (tidy : batch.Tidy) (events : List ChangeEvent) :
    (events.foldl PendingBatch.push batch).Tidy := by
  induction events generalizing batch with
  | nil => exact tidy
  | cons event rest ih => exact ih (tidy.push event)

theorem mem_foldl_push {held : ChangeEvent} {events : List ChangeEvent}
    (member : held ∈ (events.foldl push batch).events) :
    held ∈ batch.events ∨ held ∈ events ∨ held = .rescan := by
  induction events generalizing batch with
  | nil => exact .inl member
  | cons event rest ih =>
    rcases ih member with before | later | rescan
    · rcases mem_push before with before | same | rescan
      · exact .inl before
      · exact .inr (.inl (same ▸ List.mem_cons_self))
      · exact .inr (.inr rescan)
    · exact .inr (.inl (List.mem_cons_of_mem _ later))
    · exact .inr (.inr rescan)

/-- A take forgets all that was pushed before it, and nothing else of a run matters. -/
theorem run_eq_foldl_push (limit : Nat) (actions : List Action) :
    (ofLimit limit).run actions = (pushedSinceTake actions).foldl push (ofLimit limit) := by
  induction actions using List.reverseRecOn with
  | nil => rfl
  | append_singleton front last ih =>
    have goes_on : (ofLimit limit).run (front ++ [last]) = ((ofLimit limit).run front).act last := by
      simp [run]
    rw [goes_on, ih]
    cases last with
    | push event => simp [pushedSinceTake, act]
    | take =>
      have emptied : pushedSinceTake (front ++ [.take]) = [] := by simp [pushedSinceTake]
      rw [emptied]
      simp [act, take, limit_foldl_push, ofLimit]

/-- After any run of pushes and takes a batch is tidy, holds the configurations that were pushed since the last
take in the order in which they came first, and holds or covers by a rescan every other event that was pushed
since then. -/
theorem accounts_for_pushed (limit : Nat) (actions : List Action) :
    let batch := (ofLimit limit).run actions
    let pushed := pushedSinceTake actions
    batch.events.Pairwise (fun earlier later => earlier.same later = false) ∧
      batch.events.count .rescan ≤ 1 ∧
      (.rescan ∈ batch.events → ∀ event ∈ batch.events, event.file? = none) ∧
      batch.events.countP (·.file?.isSome) ≤ max limit 1 ∧
      batch.events.filter ChangeEvent.isConfigured = firstConfigurations pushed ∧
      (∀ event ∈ pushed, (∃ held ∈ batch.events, held.same event = true) ∨
        event.isConfigured = false ∧ .rescan ∈ batch.events) ∧
      ∀ held ∈ batch.events, held ∈ pushed ∨ held = .rescan := by
  intro batch pushed
  have pushes : batch = pushed.foldl push (ofLimit limit) := run_eq_foldl_push limit actions
  have tidy : batch.Tidy := pushes ▸ (tidy_ofLimit limit).foldl_push pushed
  have limit_eq : batch.limit = max limit 1 := by rw [pushes, limit_foldl_push, ofLimit]
  have configurations : batch.events.filter ChangeEvent.isConfigured = firstConfigurations pushed := by
    rw [pushes]
    exact configurations_coalesced limit pushed
  have once := List.nodup_iff_count.mp tidy.nodup .rescan
  refine ⟨tidy.distinct, once, tidy.alone, limit_eq ▸ tidy.bounded, configurations, ?_, ?_⟩
  · intro event member
    by_cases configured : event.isConfigured = true
    · have first : event ∈ batch.events.filter ChangeEvent.isConfigured := by
        rw [configurations]
        exact List.mem_eraseDups.mpr (List.mem_filter.mpr ⟨member, configured⟩)
      exact .inl ⟨event, (List.mem_filter.mp first).1, event.same_refl⟩
    · obtain ⟨held, present, same | rfl⟩ := exists_coalesced limit member
      · exact .inl ⟨held, by rw [pushes]; exact present, same⟩
      · exact .inr ⟨by simpa using configured, by rw [pushes]; exact present⟩
  · intro held member
    rw [pushes] at member
    exact (mem_foldl_push member).resolve_left List.not_mem_nil

/-- Over the limit a rescan stands for the files, and the configuration stays. -/
example :
    ((ofLimit 1).run [.push (.created ⟨"a.ts"⟩), .take, .push (.configured .default), .push (.saved ⟨"a.ts"⟩),
        .push (.deleted ⟨"b.ts"⟩)]).events =
      [.configured .default, .rescan] := by
  decide +kernel

end RouteExplorer.PendingBatch
