import RouteExplorer.Glob.Shape

/-!
The language of a shape, and that matching decides it: the places behind a shape are those to which a
described piece of the text leads from a place in front of it.
-/
namespace RouteExplorer.Glob.Shape

inductive Describes : Shape → List UInt8 → Prop where
  | byte {set : ByteSet} {one : UInt8} (inside : set.contains one = true) : Describes (.byte set) [one]
  | many {set : ByteSet} {bytes : List UInt8} (inside : ∀ one ∈ bytes, set.contains one = true) :
    Describes (.many set) bytes
  | nothing : Describes (.sequence []) []
  | append {part : Shape} {rest : List Shape} {front back : List UInt8} (first : Describes part front)
    (others : Describes (.sequence rest) back) : Describes (.sequence (part :: rest)) (front ++ back)
  | choice {option : Shape} {options : List Shape} {bytes : List UInt8} (member : option ∈ options)
    (described : Describes option bytes) : Describes (.choice options) bytes

theorem describes_sequence_append {front back : List Shape} {bytes : List UInt8} :
    Describes (.sequence (front ++ back)) bytes ↔
      ∃ before after, Describes (.sequence front) before ∧ Describes (.sequence back) after ∧
        bytes = before ++ after := by
  induction front generalizing bytes with
  | nil =>
    constructor
    · exact fun described => ⟨[], bytes, .nothing, described, rfl⟩
    · rintro ⟨before, after, first, second, rfl⟩
      cases first
      exact second
  | cons part rest ih =>
    constructor
    · intro described
      cases described with
      | append first others =>
        obtain ⟨before, after, middle, last, rfl⟩ := ih.mp others
        exact ⟨_, after, .append first middle, last, (List.append_assoc _ _ _).symm⟩
    · rintro ⟨before, after, described, last, rfl⟩
      cases described with
      | append first others =>
        rw [List.append_assoc]
        exact .append first (ih.mpr ⟨_, after, others, last, rfl⟩)

/-- A described piece of the bytes leads to a place from one of some places. -/
def Reaches (bytes : List UInt8) (shape : Shape) (places : List Bool) (stop : Nat) : Prop :=
  ∃ start count, start + count = stop ∧ stop ≤ bytes.length ∧ places[start]? = some true ∧
    shape.Describes ((bytes.drop start).take count)

/-- The reached places are those to which the pieces of a shape lead. -/
structure Leads (bytes : List UInt8) (shape : Shape) (places reached : List Bool) : Prop where
  sized : reached.length = bytes.length + 1
  exact : ∀ stop, reached[stop]? = some true ↔ Reaches bytes shape places stop

theorem reaches_zero {bytes : List UInt8} {shape : Shape} {here : Bool} {others : List Bool} :
    Reaches bytes shape (here :: others) 0 ↔ here = true ∧ shape.Describes [] := by
  constructor
  · rintro ⟨start, count, sum, _, found, described⟩
    obtain ⟨rfl, rfl⟩ : start = 0 ∧ count = 0 := by omega
    exact ⟨by simpa using found, by simpa using described⟩
  · rintro ⟨rfl, described⟩
    exact ⟨0, 0, rfl, Nat.zero_le _, rfl, described⟩

theorem reaches_succ {head : UInt8} {rest : List UInt8} {shape : Shape} {here : Bool} {others : List Bool}
    {stop : Nat} : Reaches (head :: rest) shape (here :: others) (stop + 1) ↔
      (here = true ∧ stop ≤ rest.length ∧ shape.Describes (head :: rest.take stop)) ∨
        Reaches rest shape others stop := by
  constructor
  · rintro ⟨start, count, sum, within, found, described⟩
    cases start with
    | zero =>
      obtain rfl : count = stop + 1 := by omega
      exact .inl ⟨by simpa using found, Nat.le_of_succ_le_succ within, by simpa using described⟩
    | succ start =>
      exact .inr ⟨start, count, by omega, Nat.le_of_succ_le_succ within, by simpa using found,
        by simpa using described⟩
  · rintro (⟨rfl, within, described⟩ | ⟨start, count, sum, within, found, described⟩)
    · exact ⟨0, stop + 1, by omega, Nat.succ_le_succ within, rfl, by simpa using described⟩
    · exact ⟨start + 1, count, by omega, Nat.succ_le_succ within, by simpa using found,
        by simpa using described⟩

theorem reaches_or {bytes : List UInt8} {shape : Shape} {here more : Bool} {others : List Bool} {stop : Nat} :
    Reaches bytes shape ((here || more) :: others) stop ↔
      (more = true ∧ stop ≤ bytes.length ∧ shape.Describes (bytes.take stop)) ∨
        Reaches bytes shape (here :: others) stop := by
  constructor
  · rintro ⟨start, count, sum, within, found, described⟩
    cases start with
    | zero =>
      obtain rfl : count = stop := by omega
      rcases (Bool.or_eq_true _ _).mp (by simpa using found) with rfl | rfl
      · exact .inr ⟨0, count, sum, within, rfl, described⟩
      · exact .inl ⟨rfl, within, by simpa using described⟩
    | succ start => exact .inr ⟨start + 1, count, sum, within, by simpa using found, described⟩
  · rintro (⟨rfl, within, described⟩ | ⟨start, count, sum, within, found, described⟩)
    · exact ⟨0, stop, by omega, within, by simp, by simpa using described⟩
    · refine ⟨start, count, sum, within, ?_, described⟩
      cases start with
      | zero =>
        obtain rfl : here = true := by simpa using found
        rfl
      | succ start => simpa using found

theorem describes_byte {set : ByteSet} {bytes : List UInt8} :
    Describes (.byte set) bytes ↔ ∃ one, bytes = [one] ∧ set.contains one = true := by
  constructor
  · intro described
    cases described with
    | byte inside => exact ⟨_, rfl, inside⟩
  · rintro ⟨one, rfl, inside⟩
    exact .byte inside

theorem describes_many {set : ByteSet} {bytes : List UInt8} :
    Describes (.many set) bytes ↔ ∀ one ∈ bytes, set.contains one = true := by
  constructor
  · intro described
    cases described with
    | many inside => exact inside
  · exact .many

private theorem stepByte_length (set : ByteSet) (bytes : List UInt8) (places : List Bool) :
    (stepByte set bytes places).length = min bytes.length places.length := by
  induction bytes generalizing places with
  | nil => simp [stepByte]
  | cons head rest ih =>
    cases places with
    | nil => simp [stepByte]
    | cons here others =>
      simp only [stepByte, List.length_cons, ih]
      omega

private theorem stepByte_getElem? (set : ByteSet) {bytes : List UInt8} {places : List Bool}
    (sized : places.length = bytes.length + 1) (start : Nat) :
    (stepByte set bytes places)[start]? = some true ↔ Reaches bytes (.byte set) places (start + 1) := by
  induction bytes generalizing places start with
  | nil =>
    have nothing : ¬Reaches [] (.byte set) places (start + 1) := by
      rintro ⟨_, _, _, within, _⟩
      simp at within
    simp [stepByte, nothing]
  | cons head rest ih =>
    cases places with
    | nil => simp at sized
    | cons here others =>
      have others_sized := Nat.succ.inj sized
      obtain ⟨next, later, rfl⟩ := List.exists_cons_of_length_eq_add_one others_sized
      rw [reaches_succ, describes_byte]
      cases start with
      | zero => simp [stepByte, reaches_zero, describes_byte]
      | succ start =>
        rw [or_iff_right]
        · simpa [stepByte] using ih others_sized start
        · rintro ⟨_, within, one, single, _⟩
          have sizes := congrArg List.length single
          simp only [List.length_cons, List.length_take, List.length_nil] at sizes
          omega

private theorem leads_byte (set : ByteSet) {bytes : List UInt8} {places : List Bool}
    (sized : places.length = bytes.length + 1) :
    Leads bytes (.byte set) places (false :: stepByte set bytes places) where
  sized := by simp [stepByte_length, sized]
  exact stop := by
    obtain ⟨here, others, rfl⟩ := List.exists_cons_of_length_eq_add_one sized
    cases stop with
    | zero => simp [reaches_zero, describes_byte]
    | succ start => simpa using stepByte_getElem? set sized start

private theorem stepMany_length (set : ByteSet) (carried : Bool) {bytes : List UInt8} {places : List Bool}
    (sized : places.length = bytes.length + 1) :
    (stepMany set carried bytes places).length = bytes.length + 1 := by
  induction bytes generalizing carried places with
  | nil =>
    obtain ⟨here, rfl⟩ := List.length_eq_one_iff.mp sized
    rfl
  | cons head rest ih =>
    obtain ⟨here, others, rfl⟩ := List.exists_cons_of_length_eq_add_one sized
    simp [stepMany, ih _ (Nat.succ.inj sized)]

/-- What is carried over counts as one more way to reach the first place. -/
private theorem stepMany_getElem? (set : ByteSet) (carried : Bool) {bytes : List UInt8} (here : Bool)
    {others : List Bool} (sized : others.length = bytes.length) (stop : Nat) :
    (stepMany set carried bytes (here :: others))[stop]? = some true ↔
      Reaches bytes (.many set) ((here || carried) :: others) stop := by
  induction bytes generalizing carried here others stop with
  | nil =>
    obtain rfl := List.length_eq_zero_iff.mp sized
    cases stop with
    | zero => simp [stepMany, reaches_zero, describes_many]
    | succ stop =>
      have nothing : ¬Reaches [] (.many set) [here || carried] (stop + 1) := by
        rintro ⟨_, _, _, within, _⟩
        simp at within
      simp [stepMany, nothing]
  | cons head rest ih =>
    obtain ⟨next, later, rfl⟩ := List.exists_cons_of_length_eq_add_one sized
    cases stop with
    | zero => simp [stepMany, reaches_zero, describes_many]
    | succ stop =>
      have passed := ih ((here || carried) && set.contains head) next (Nat.succ.inj sized) stop
      rw [stepMany, List.getElem?_cons_succ, passed, reaches_or, reaches_succ, describes_many, describes_many]
      simp [and_assoc, and_left_comm]

private theorem leads_many (set : ByteSet) {bytes : List UInt8} {places : List Bool}
    (sized : places.length = bytes.length + 1) :
    Leads bytes (.many set) places (stepMany set false bytes places) where
  sized := stepMany_length set false sized
  exact stop := by
    obtain ⟨here, others, rfl⟩ := List.exists_cons_of_length_eq_add_one sized
    simpa using stepMany_getElem? set false here (Nat.succ.inj sized) stop

private theorem reaches_sequence {bytes : List UInt8} {part : Shape} {rest : List Shape}
    {places between : List Bool} (first : Leads bytes part places between) (stop : Nat) :
    Reaches bytes (.sequence rest) between stop ↔ Reaches bytes (.sequence (part :: rest)) places stop := by
  constructor
  · rintro ⟨middle, count, sum, within, reached, described⟩
    obtain ⟨start, earlier, before, _, found, front⟩ := (first.exact middle).mp reached
    refine ⟨start, earlier + count, by omega, within, found, ?_⟩
    rw [List.take_add, List.drop_drop, before]
    exact .append front described
  · rintro ⟨start, count, sum, within, found, described⟩
    generalize piece : (bytes.drop start).take count = whole at described
    cases described with
    | @append _ _ front back first_part others =>
      have sizes : front.length + back.length = count := by
        have := congrArg List.length piece
        simp only [List.length_take, List.length_drop, List.length_append] at this
        omega
      rw [← sizes, List.take_add, List.drop_drop] at piece
      have cut := List.append_inj piece (by simp; omega)
      refine ⟨start + front.length, back.length, by omega, within, (first.exact _).mpr ?_, by rwa [cut.2]⟩
      exact ⟨start, front.length, rfl, by omega, found, by rwa [cut.1]⟩

private theorem union_length (left right : List Bool) :
    (union left right).length = max left.length right.length := by
  induction left generalizing right with
  | nil => simp [union]
  | cons head rest ih =>
    cases right with
    | nil => simp [union]
    | cons other others => simp [union, ih, Nat.succ_max_succ]

private theorem union_getElem? (left right : List Bool) (index : Nat) :
    (union left right)[index]? = some true ↔ left[index]? = some true ∨ right[index]? = some true := by
  induction left generalizing right index with
  | nil => simp [union]
  | cons head rest ih =>
    cases right with
    | nil => simp [union]
    | cons other others =>
      cases index with
      | zero => simp [union]
      | succ index => simpa [union] using ih others index

private theorem reaches_choice {bytes : List UInt8} {option : Shape} {rest : List Shape} {places : List Bool}
    {stop : Nat} : Reaches bytes (.choice (option :: rest)) places stop ↔
      Reaches bytes option places stop ∨ Reaches bytes (.choice rest) places stop := by
  constructor
  · rintro ⟨start, count, sum, within, found, described⟩
    cases described with
    | choice member described =>
      rcases List.mem_cons.mp member with rfl | later
      · exact .inl ⟨start, count, sum, within, found, described⟩
      · exact .inr ⟨start, count, sum, within, found, .choice later described⟩
  · rintro (⟨start, count, sum, within, found, described⟩ | ⟨start, count, sum, within, found, described⟩)
    · exact ⟨start, count, sum, within, found, .choice List.mem_cons_self described⟩
    · cases described with
      | choice member described =>
        exact ⟨start, count, sum, within, found, .choice (List.mem_cons_of_mem _ member) described⟩

private theorem nowhere {α : Type} (items : List α) (stop : Nat) :
    (items.map fun _ => false)[stop]? ≠ some true := by
  rw [List.getElem?_map]
  cases items[stop]? <;> simp

mutual

/-- A step leads from the places in front of a shape to those behind it. -/
theorem leads_step (bytes : List UInt8) : (shape : Shape) → {places : List Bool} →
    places.length = bytes.length + 1 → Leads bytes shape places (step bytes shape places)
  | .byte set, _, sized => by
    rw [step]
    exact leads_byte set sized
  | .many set, _, sized => by
    rw [step]
    exact leads_many set sized
  | .sequence parts, _, sized => by
    rw [step]
    exact leads_stepAll bytes parts sized
  | .choice options, _, sized => by
    rw [step]
    exact leads_stepAny bytes options sized

theorem leads_stepAll (bytes : List UInt8) : (parts : List Shape) → {places : List Bool} →
    places.length = bytes.length + 1 → Leads bytes (.sequence parts) places (stepAll bytes parts places)
  | [], places, sized => by
    rw [stepAll]
    refine ⟨sized, fun stop => ⟨fun found => ⟨stop, 0, rfl, ?_, found, by simpa using .nothing⟩, ?_⟩⟩
    · obtain ⟨within, _⟩ := List.getElem?_eq_some_iff.mp found
      omega
    · rintro ⟨start, count, sum, within, found, described⟩
      generalize piece : (bytes.drop start).take count = whole at described
      cases described
      have empty : count = 0 := by
        have := congrArg List.length piece
        simp only [List.length_take, List.length_drop, List.length_nil] at this
        omega
      rwa [← sum, empty]
  | part :: rest, _, sized => by
    rw [stepAll]
    have first := leads_step bytes part sized
    have later := leads_stepAll bytes rest first.sized
    exact ⟨later.sized, fun stop => (later.exact stop).trans (reaches_sequence first stop)⟩

theorem leads_stepAny (bytes : List UInt8) : (options : List Shape) → {places : List Bool} →
    places.length = bytes.length + 1 → Leads bytes (.choice options) places (stepAny bytes options places)
  | [], places, sized => by
    rw [stepAny]
    refine ⟨by simpa using sized, fun stop => ⟨fun found => absurd found (nowhere places stop), ?_⟩⟩
    rintro ⟨_, _, _, _, _, described⟩
    cases described with
    | choice member _ => simp at member
  | option :: rest, _, sized => by
    rw [stepAny]
    have first := leads_step bytes option sized
    have others := leads_stepAny bytes rest sized
    refine ⟨by simp [union_length, first.sized, others.sized], fun stop => ?_⟩
    rw [union_getElem?, first.exact, others.exact, reaches_choice]

end

/-- Matching accepts exactly what a shape describes. -/
theorem accepts_iff (shape : Shape) (bytes : List UInt8) :
    shape.accepts bytes = true ↔ shape.Describes bytes := by
  have leads : Leads bytes shape (true :: bytes.map fun _ => false)
      (step bytes shape (true :: bytes.map fun _ => false)) := leads_step bytes shape (by simp)
  have last : (step bytes shape (true :: bytes.map fun _ => false)).getLast? =
      (step bytes shape (true :: bytes.map fun _ => false))[bytes.length]? := by
    rw [List.getLast?_eq_getElem?, leads.sized, Nat.add_sub_cancel]
  have reached : shape.accepts bytes = true ↔
      Reaches bytes shape (true :: bytes.map fun _ => false) bytes.length := by
    rw [← leads.exact, accepts, last]
    cases (step bytes shape (true :: bytes.map fun _ => false))[bytes.length]? <;> simp
  rw [reached]
  constructor
  · rintro ⟨start, count, sum, _, found, described⟩
    cases start with
    | zero =>
      obtain rfl : count = bytes.length := by omega
      simpa using described
    | succ start => exact absurd found (nowhere bytes start)
  · intro described
    exact ⟨0, bytes.length, by omega, Nat.le_refl _, rfl, by simpa using described⟩

end RouteExplorer.Glob.Shape
