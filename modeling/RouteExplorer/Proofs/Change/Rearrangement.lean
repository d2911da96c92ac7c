import RouteExplorer.Proofs.Session.Run

namespace RouteExplorer

namespace ChangeEvent

def isAccepted (event : ChangeEvent) : Bool := event.patterns?.isSome

def isRejected (event : ChangeEvent) : Bool := event.isConfigured && !event.isAccepted

/-- Some events and the same ones in another order, in which accepted configurations do not pass each other,
without a rejected configuration, or with a further copy of what is no configuration. -/
inductive Rearranged : List ChangeEvent → List ChangeEvent → Prop where
  | permuted {events others : List ChangeEvent} (permutes : events.Perm others)
    (ordered : events.filter isAccepted = others.filter isAccepted) : Rearranged events others
  | dropped (front back : List ChangeEvent) {event : ChangeEvent} (rejected : event.isRejected = true) :
    Rearranged (front ++ event :: back) (front ++ back)
  | repeated (front back : List ChangeEvent) {event : ChangeEvent} (present : event ∈ front ++ back)
    (plain : event.isConfigured = false) : Rearranged (front ++ back) (front ++ event :: back)
  | trans {first second third : List ChangeEvent} (before : Rearranged first second)
    (behind : Rearranged second third) : Rearranged first third

theorem isConfigured_of_isAccepted {event : ChangeEvent} (accepted : event.isAccepted = true) :
    event.isConfigured = true := by
  cases event with
  | configured => rfl
  | _ => cases accepted

variable {events others : List ChangeEvent}

/-- Accepted configurations stay, as often as they were and in their order. -/
theorem Rearranged.accepted_eq (rearranged : Rearranged events others) :
    events.filter isAccepted = others.filter isAccepted := by
  induction rearranged with
  | permuted _ ordered => exact ordered
  | @dropped front back event rejected =>
    have refused : event.isAccepted = false := by
      simpa using (Bool.and_eq_true_iff.mp rejected).2
    simp [refused]
  | @repeated front back event _ plain =>
    have refused : event.isAccepted = false := by
      apply Bool.eq_false_iff.mpr
      intro accepted
      simp [isConfigured_of_isAccepted accepted] at plain
    simp [refused]
  | trans _ _ before behind => exact before.trans behind

/-- No event gets lost or comes up, but rejected configurations. -/
theorem Rearranged.mem_iff (rearranged : Rearranged events others) {event : ChangeEvent}
    (heeded : event.isRejected = false) : event ∈ events ↔ event ∈ others := by
  induction rearranged with
  | permuted permutes _ => exact permutes.mem_iff
  | @dropped front back other rejected =>
    have different : event ≠ other := by
      rintro rfl
      simp [heeded] at rejected
    simp [different]
  | @repeated front back other present _ =>
    by_cases same : event = other
    · subst same
      simpa using present
    · simp [same]
  | trans _ _ before behind => exact before.trans behind

theorem Rearranged.any_eq (rearranged : Rearranged events others) {property : ChangeEvent → Bool}
    (blind : ∀ event : ChangeEvent, event.isRejected = true → property event = false) :
    events.any property = others.any property := by
  rw [Bool.eq_iff_iff, List.any_eq_true, List.any_eq_true]
  refine exists_congr fun event => and_congr_left fun holds => rearranged.mem_iff ?_
  apply Bool.eq_false_iff.mpr
  intro rejected
  simp [blind event rejected] at holds

theorem Rearranged.lastPatterns?_eq (rearranged : Rearranged events others) :
    lastPatterns? events = lastPatterns? others := by
  have accepted (some_events : List ChangeEvent) :
      lastPatterns? (some_events.filter isAccepted) = lastPatterns? some_events :=
    lastPatterns?_filter_of (fun _ brings => brings) some_events
  rw [← accepted events, rearranged.accepted_eq, accepted others]

theorem resets_of_isRejected {event : ChangeEvent} (rejected : event.isRejected = true) :
    event.resets = false := by
  obtain ⟨configured, refused⟩ := Bool.and_eq_true_iff.mp rejected
  have brings_none : event.patterns?.isSome = false := by simpa [isAccepted] using refused
  cases event with
  | configured config => simp [resets, brings_none]
  | _ => cases configured

theorem file?_of_isRejected {event : ChangeEvent} (rejected : event.isRejected = true) :
    event.file? = none ∧ ∀ path, event.names path = false := by
  cases event with
  | configured config => exact ⟨rfl, fun _ => rfl⟩
  | _ => cases rejected

end ChangeEvent

namespace Session

open ChangeEvent (Rearranged resets_of_isRejected file?_of_isRejected)

variable {events others : List ChangeEvent}

theorem leftBy_eq_of_rearranged (session : Session) (rearranged : Rearranged events others) :
    session.leftBy events = session.leftBy others := by
  have named (path : FilePath) : events.any (·.names path) = others.any (·.names path) :=
    rearranged.any_eq fun _ rejected => (file?_of_isRejected rejected).2 path
  simp only [leftBy, rearranged.any_eq fun _ => resets_of_isRejected, named]

theorem absorbAll_fst_eq_of_rearranged (session : Session) (rearranged : Rearranged events others) :
    (session.absorbAll events).1 = (session.absorbAll others).1 := by
  rw [absorbAll_fst, absorbAll_fst]
  refine rearranged.any_eq fun event rejected => ?_
  rw [resets_of_isRejected rejected, (file?_of_isRejected rejected).1]
  rfl

/-- Whether events are applied as they are or rearranged, the answer and everything about the session behind
them is the same. -/
theorem applyBatch_eq_of_rearranged (session : Session) (disk : Disk) (rearranged : Rearranged events others) :
    session.applyBatch disk events = session.applyBatch disk others := by
  rw [applyBatch_eq, applyBatch_eq, absorbed_eq, absorbed_eq, session.absorbAll_fst_eq_of_rearranged rearranged,
    session.leftBy_eq_of_rearranged rearranged, rearranged.lastPatterns?_eq]

open Explorer (controllerText diskOf overDirectories)

/-- A session over a file that was rewritten behind the last scan. -/
def rewritten : Explorer :=
  ⟨diskOf [("w", controllerText "Dogs" "")],
    ((overDirectories [("w", controllerText "Cats" "")]).step .refresh).session⟩

def scattered : List ChangeEvent :=
  [.saved ⟨"/w/a.ts"⟩, .configured ⟨["["], [], 300⟩, .configured ⟨["b.ts"], [], 300⟩, .deleted ⟨"/w/./a.ts"⟩,
    .configured ⟨["*.ts"], [], 300⟩]

def gathered : List ChangeEvent :=
  [.configured ⟨["b.ts"], [], 300⟩, .configured ⟨["*.ts"], [], 300⟩, .deleted ⟨"/w/./a.ts"⟩,
    .saved ⟨"/w/a.ts"⟩, .saved ⟨"/w/a.ts"⟩]

theorem scattered_gathered :
    Rearranged scattered gathered ∧
      rewritten.session.applyBatch rewritten.disk scattered =
        rewritten.session.applyBatch rewritten.disk gathered ∧
      (rewritten.session.applyBatch rewritten.disk gathered).1 = true ∧
      (rewritten.session.applyBatch rewritten.disk gathered).2.store.snapshot.controllers.map Controller.name =
        ["Dogs"] := by
  have rearranged : Rearranged scattered gathered := by
    refine .trans (.dropped [.saved ⟨"/w/a.ts"⟩] _ (by decide +kernel)) (.trans (.permuted ?_ ?_)
      (.repeated [.configured ⟨["b.ts"], [], 300⟩, .configured ⟨["*.ts"], [], 300⟩, .deleted ⟨"/w/./a.ts"⟩]
        [.saved ⟨"/w/a.ts"⟩] (by decide) rfl))
    · decide
    · decide +kernel
  exact ⟨rearranged, rewritten.session.applyBatch_eq_of_rearranged rewritten.disk rearranged,
    by decide +kernel, by decide +kernel⟩

end Session

end RouteExplorer
