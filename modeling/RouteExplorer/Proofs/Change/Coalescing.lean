import RouteExplorer.Change.Pending
import RouteExplorer.Proofs.Session.Run

/-!
Collected events against the events one by one. A batch keeps the first of equal configurations, in
order, and of every other event it keeps one like it or a rescan. So only a configuration that comes
back after another one can make a difference.
-/
namespace RouteExplorer

open Glob (PatternSet)

namespace ChangeEvent

/-- The configurations among some events, without those that came before. -/
def firstConfigurations (events : List ChangeEvent) : List ChangeEvent :=
  (events.filter isConfigured).eraseDups

theorem same_refl (event : ChangeEvent) : event.same event = true := by
  cases event <;> simp [same, FilePath.same_refl]

theorem same_trans {first second third : ChangeEvent} (left : first.same second = true)
    (right : second.same third = true) : first.same third = true := by
  cases first <;> cases second <;> simp only [same, Bool.false_eq_true, beq_iff_eq] at left
  case configured.configured => exact left ▸ right
  case rescan.rescan => exact right
  all_goals
    cases third <;> simp only [same, Bool.false_eq_true] at right
    exact FilePath.same_trans left right

theorem eq_of_same_configured {held event : ChangeEvent} (configured : event.isConfigured = true)
    (same : held.same event = true) : held = event := by
  cases event <;> simp only [isConfigured, Bool.false_eq_true] at configured
  cases held <;> simp only [ChangeEvent.same, Bool.false_eq_true, beq_iff_eq] at same
  rw [same]

theorem names_of_same {held event : ChangeEvent} (same : held.same event = true) {path : FilePath}
    (named : event.names path = true) : held.names path = true := by
  cases event <;> simp only [names, Bool.false_eq_true] at named
  all_goals
    cases held <;> simp only [ChangeEvent.same, Bool.false_eq_true] at same
    exact FilePath.same_trans same named

@[simp] theorem isConfigured_rescan : rescan.isConfigured = false := rfl

theorem resets_of_same {held event : ChangeEvent} (same : held.same event = true)
    (resets : event.resets = true) : held.resets = true := by
  cases event with
  | rescan => cases held <;> simp [ChangeEvent.same] at same; exact resets
  | configured config => rwa [eq_of_same_configured rfl same]
  | _ => simp [ChangeEvent.resets, patterns?] at resets

theorem same_comm (left right : ChangeEvent) : left.same right = right.same left := by
  cases left <;> cases right <;> simp [ChangeEvent.same, FilePath.same_comm, eq_comm]

/-- Like events name the same files, bring in the same patterns, and reset sessions alike. -/
theorem eq_of_same {left right : ChangeEvent} (same : left.same right = true) :
    left.names = right.names ∧ left.patterns? = right.patterns? ∧ left.resets = right.resets := by
  have reverse : right.same left = true := right.same_comm left ▸ same
  refine ⟨?_, ?_, Bool.eq_iff_iff.mpr ⟨resets_of_same reverse, resets_of_same same⟩⟩
  · funext path
    exact Bool.eq_iff_iff.mpr ⟨names_of_same reverse, names_of_same same⟩
  · cases right with
    | configured config => rw [eq_of_same_configured rfl same]
    | _ => cases left <;> first | rfl | cases same

/-- Like events are about files of the same eligibility. -/
theorem file?_any_of_same {held event : ChangeEvent} (same : held.same event = true) (session : Session) :
    held.file?.any session.isEligible = event.file?.any session.isEligible := by
  cases held <;> cases event <;> simp only [ChangeEvent.same, Bool.false_eq_true] at same
  case configured.configured | rescan.rescan => rfl
  all_goals exact isEligible_congr session.index.roots session.index.patterns same

theorem lastPatterns?_filter (events : List ChangeEvent) :
    lastPatterns? (events.filter isConfigured) = lastPatterns? events := by
  refine lastPatterns?_filter_of (fun event brings => ?_) events
  cases event with
  | configured => rfl
  | _ => cases brings

theorem lastPatterns?_isSome {events : List ChangeEvent} :
    (lastPatterns? events).isSome = true ↔ ∃ event ∈ events, event.patterns?.isSome = true := by
  simp [lastPatterns?, List.findSome?_isSome_iff]

theorem lastPatterns?_firstConfigurations_isSome (events : List ChangeEvent) :
    (lastPatterns? (firstConfigurations events)).isSome = (lastPatterns? events).isSome := by
  rw [← lastPatterns?_filter events, Bool.eq_iff_iff, lastPatterns?_isSome, lastPatterns?_isSome]
  simp [firstConfigurations]

end ChangeEvent

namespace PendingBatch

open ChangeEvent (firstConfigurations)

def coalesced (limit : Nat) (events : List ChangeEvent) : List ChangeEvent :=
  (events.foldl push (ofLimit limit)).take.1

/-- An event like this one is held, or a rescan. -/
def covers (batch : PendingBatch) (event : ChangeEvent) : Bool := batch.holds event || batch.holds .rescan

theorem holds_of_same {batch : PendingBatch} {event other : ChangeEvent} (held : batch.holds event = true)
    (same : event.same other = true) : batch.holds other = true := by
  obtain ⟨kept, member, like⟩ := List.any_eq_true.mp held
  exact List.any_eq_true.mpr ⟨kept, member, ChangeEvent.same_trans like same⟩

theorem mem_of_holds_configured {batch : PendingBatch} {event : ChangeEvent}
    (configured : event.isConfigured = true) (held : batch.holds event = true) : event ∈ batch.events := by
  obtain ⟨kept, member, like⟩ := List.any_eq_true.mp held
  exact ChangeEvent.eq_of_same_configured configured like ▸ member

/-- A push keeps the configurations in order and adds one that is new. -/
theorem configurations_push (batch : PendingBatch) (event : ChangeEvent) :
    (batch.push event).events.filter ChangeEvent.isConfigured =
      batch.events.filter ChangeEvent.isConfigured ++
        if event.isConfigured && !batch.holds event then [event] else [] := by
  unfold push
  by_cases held : batch.holds event = true
  · simp [held]
  by_cases configured : event.isConfigured = true
  · simp [held, configured]
  by_cases rescans : batch.holds .rescan = true
  · simp [held, configured, rescans]
  by_cases full : (event == .rescan || decide (batch.limit ≤ batch.events.length)) = true
  · simp [configured, held, rescans, full, collapse]
  · simp [configured, held, rescans, full]

/-- After a push the batch covers the event, and whatever it covered before. -/
theorem covers_push {batch : PendingBatch} {event other : ChangeEvent}
    (covered : event.same other = true ∨ batch.covers other = true) :
    (batch.push event).covers other = true := by
  have appended (covered : event.same other = true ∨ batch.covers other = true) :
      covers { batch with events := batch.events ++ [event] } other = true := by
    rcases covered with same | covered
    · simp [covers, holds, same]
    · simp only [covers, holds, List.any_append, Bool.or_eq_true] at covered ⊢
      exact covered.imp .inl .inl
  unfold push
  split
  · next held =>
    rcases covered with same | covered
    · simp [covers, holds_of_same held same]
    · exact covered
  split
  · exact appended covered
  split
  · next rescans => simp [covers, rescans]
  split
  · simp [covers, holds, collapse, ChangeEvent.same]
  · exact appended covered

theorem coalesced_append_singleton (limit : Nat) (events : List ChangeEvent) (event : ChangeEvent) :
    coalesced limit (events ++ [event]) = ((events.foldl push (ofLimit limit)).push event).events := by
  simp [coalesced, take]

private theorem eraseDups_append_singleton (front : List ChangeEvent) (last : ChangeEvent) :
    (front ++ [last]).eraseDups =
      if last ∈ front then front.eraseDups else front.eraseDups ++ [last] := by
  rw [List.eraseDups_append]
  split
  · next known => simp [List.removeAll, known]
  · next unknown => simp [List.removeAll, unknown, List.eraseDups_cons]

theorem configurations_coalesced (limit : Nat) (events : List ChangeEvent) :
    (coalesced limit events).filter ChangeEvent.isConfigured = firstConfigurations events := by
  induction events using List.reverseRecOn with
  | nil => rfl
  | append_singleton front event ih =>
    have kept : (front.foldl push (ofLimit limit)).events.filter ChangeEvent.isConfigured =
        firstConfigurations front := ih
    rw [coalesced_append_singleton, configurations_push, kept]
    unfold firstConfigurations at kept ⊢
    rw [List.filter_append]
    by_cases configured : event.isConfigured = true
    · have held_iff : (front.foldl push (ofLimit limit)).holds event = true ↔
          event ∈ front.filter ChangeEvent.isConfigured := by
        rw [← List.mem_eraseDups, ← kept, List.mem_filter]
        constructor
        · exact fun held => ⟨mem_of_holds_configured configured held, configured⟩
        · exact fun member => List.any_eq_true.mpr ⟨event, member.1, event.same_refl⟩
      rw [List.filter_cons_of_pos configured, List.filter_nil, eraseDups_append_singleton]
      by_cases held : (front.foldl push (ofLimit limit)).holds event = true
      · rw [if_pos (held_iff.mp held)]
        simp [held]
      · rw [if_neg fun member => held (held_iff.mpr member)]
        simp [configured, held]
    · simp [configured]

theorem covers_coalesced (limit : Nat) {events : List ChangeEvent} {event : ChangeEvent}
    (member : event ∈ events) : (events.foldl push (ofLimit limit)).covers event = true := by
  induction events using List.reverseRecOn with
  | nil => simp at member
  | append_singleton front last ih =>
    rw [List.foldl_append]
    refine covers_push ?_
    rcases List.mem_append.mp member with earlier | newest
    · exact .inr (ih earlier)
    · exact .inl (List.mem_singleton.mp newest ▸ event.same_refl)

theorem exists_coalesced (limit : Nat) {events : List ChangeEvent} {event : ChangeEvent}
    (member : event ∈ events) :
    ∃ held ∈ coalesced limit events, held.same event = true ∨ held = .rescan := by
  rcases Bool.or_eq_true_iff.mp (covers_coalesced limit member) with held | rescans
  · obtain ⟨kept, present, like⟩ := List.any_eq_true.mp held
    exact ⟨kept, present, .inl like⟩
  · obtain ⟨kept, present, like⟩ := List.any_eq_true.mp rescans
    refine ⟨kept, present, .inr ?_⟩
    cases kept <;> first | rfl | simp [ChangeEvent.same] at like

end PendingBatch

namespace Session

open ChangeEvent (lastPatterns? firstConfigurations)
open Explorer (controllerText overDirectories fresh_overDirectories)
open PendingBatch (coalesced)

variable {session : Session} {disk : Disk}

private theorem patterns_coalesced_iff (session : Session) (disk : Disk) (limit : Nat)
    (events : List ChangeEvent) :
    (session.applyBatch disk (coalesced limit events)).2.index.patterns =
        (session.applyBatch disk events).2.index.patterns ↔
      lastPatterns? (firstConfigurations events) = lastPatterns? events := by
  have kept : lastPatterns? (coalesced limit events) = lastPatterns? (firstConfigurations events) := by
    rw [← ChangeEvent.lastPatterns?_filter, PendingBatch.configurations_coalesced]
  have some_kept := ChangeEvent.lastPatterns?_firstConfigurations_isSome events
  rw [applyBatch_patterns, applyBatch_patterns, kept]
  cases first : lastPatterns? (firstConfigurations events) <;>
    cases last : lastPatterns? events <;> simp [first, last] at some_kept ⊢

/-- What some events report, the coalesced ones report as well. -/
private theorem reports_coalesced (limit : Nat) {events : List ChangeEvent} {event : ChangeEvent}
    (member : event ∈ events) {path : FilePath} (reports : event.reports path = true) :
    ∃ held ∈ coalesced limit events, held.reports path = true := by
  obtain ⟨held, present, same | rfl⟩ := PendingBatch.exists_coalesced limit member
  · refine ⟨held, present, Bool.or_eq_true_iff.mpr ?_⟩
    exact (Bool.or_eq_true_iff.mp reports).imp (ChangeEvent.resets_of_same same)
      (ChangeEvent.names_of_same same)
  · exact ⟨.rescan, present, rfl⟩

/-- Where some events concern a session, the coalesced ones do. -/
private theorem concerned_coalesced (limit : Nat) {events : List ChangeEvent}
    (concerned : (session.absorbAll events).1 = true) :
    (session.absorbAll (coalesced limit events)).1 = true := by
  rw [absorbAll_fst] at concerned ⊢
  obtain ⟨event, member, concerns⟩ := List.any_eq_true.mp concerned
  obtain ⟨held, present, same | rfl⟩ := PendingBatch.exists_coalesced limit member
  · refine List.any_eq_true.mpr ⟨held, present, Bool.or_eq_true_iff.mpr ?_⟩
    rw [ChangeEvent.file?_any_of_same same]
    exact (Bool.or_eq_true_iff.mp concerns).imp (ChangeEvent.resets_of_same same) id
  · exact List.any_eq_true.mpr ⟨.rescan, present, rfl⟩

/-- Applying collected events leaves the patterns, and the snapshot of a refresh, that the events
themselves leave, exactly when the repetitions of configurations that are dropped do not matter for
which patterns are accepted last. -/
theorem applyBatch_coalesced_iff (sound : disk.Sound) (limit : Nat) {events : List ChangeEvent}
    (current : session.index.CurrentExcept disk fun path => ∃ event ∈ events, event.names path = true) :
    ((session.applyBatch disk (coalesced limit events)).2.index.patterns =
        (session.applyBatch disk events).2.index.patterns ∧
      ((session.applyBatch disk events).1 = true →
        (session.applyBatch disk (coalesced limit events)).2.store.snapshot =
          (session.applyBatch disk events).2.store.snapshot)) ↔
      lastPatterns? (firstConfigurations events) = lastPatterns? events := by
  rw [patterns_coalesced_iff]
  refine and_iff_left_of_imp fun same refreshed => ?_
  have concerned : (session.absorbAll events).1 = true := by rwa [← applyBatch_fst session disk]
  have named (path : FilePath) (exempt : ∃ event ∈ events, event.names path = true) :
      ∃ event ∈ events, event.reports path = true := by
    obtain ⟨event, member, names⟩ := exempt
    exact ⟨event, member, by simp [ChangeEvent.reports, names]⟩
  have direct := current_absorbed current named
  have collected := current_absorbed current fun path exempt => by
    obtain ⟨event, member, reports⟩ := named path exempt
    exact reports_coalesced limit member reports
  have patterns := (patterns_coalesced_iff session disk limit events).mpr same
  rw [applyBatch_patterns, applyBatch_patterns] at patterns
  rw [applyBatch_snapshot sound concerned direct,
    applyBatch_snapshot sound (concerned_coalesced limit concerned) collected,
    scanFromScratch_absorbed, scanFromScratch_absorbed, patterns]

/-- A session that knows one file. -/
def oneController : Explorer :=
  (overDirectories [("w", controllerText "Cats" "")]).step .refresh

private theorem current_oneController :
    oneController.session.index.Current oneController.disk :=
  (fresh_overDirectories (by decide)).current_refresh

def manyEvents : List ChangeEvent :=
  [.saved ⟨"/w/a.ts"⟩, .configured ⟨["b.ts"], [], 300⟩, .created ⟨"/w/b.ts"⟩, .saved ⟨"/w/./a.ts"⟩,
    .configured ⟨["*.ts"], [], 300⟩]

theorem manyEvents_coalesced :
    oneController.session.index.CurrentExcept oneController.disk
        (fun path => ∃ event ∈ manyEvents, event.names path = true) ∧
      coalesced 2 manyEvents = [.configured ⟨["b.ts"], [], 300⟩, .rescan, .configured ⟨["*.ts"], [], 300⟩] ∧
      (oneController.session.applyBatch oneController.disk (coalesced 2 manyEvents)).2.index.patterns =
        (oneController.session.applyBatch oneController.disk manyEvents).2.index.patterns ∧
      ((oneController.session.applyBatch oneController.disk manyEvents).1 = true →
        (oneController.session.applyBatch oneController.disk (coalesced 2 manyEvents)).2.store.snapshot =
          (oneController.session.applyBatch oneController.disk manyEvents).2.store.snapshot) := by
  have current := current_oneController.currentExcept fun path => ∃ event ∈ manyEvents, event.names path = true
  exact ⟨current, by decide, (applyBatch_coalesced_iff (by decide) 2 current).mpr rfl⟩

def changedBack : List ChangeEvent :=
  [.configured ⟨["*.ts"], [], 300⟩, .configured ⟨["b.ts"], [], 300⟩, .configured ⟨["*.ts"], [], 300⟩]

/-- The collected events leave the patterns as they were changed, not as they were changed back. -/
theorem changedBack_lost :
    oneController.session.index.CurrentExcept oneController.disk
        (fun path => ∃ event ∈ changedBack, event.names path = true) ∧
      ¬((oneController.session.applyBatch oneController.disk (coalesced 10 changedBack)).2.index.patterns =
          (oneController.session.applyBatch oneController.disk changedBack).2.index.patterns ∧
        ((oneController.session.applyBatch oneController.disk changedBack).1 = true →
          (oneController.session.applyBatch oneController.disk (coalesced 10 changedBack)).2.store.snapshot =
            (oneController.session.applyBatch oneController.disk changedBack).2.store.snapshot)) := by
  refine ⟨current_oneController.currentExcept _, ?_⟩
  rintro ⟨patterns, _⟩
  exact absurd (congrArg (·.selects "a.ts") patterns) (by decide +kernel)

end Session

end RouteExplorer
