import RouteExplorer.Proofs.Json.Fields

namespace RouteExplorer.Json

namespace Fields

def passing (accepts : String → Bool) (fields : Fields) : Fields := fields.filter fun field => accepts field.1

variable {accepts : String → Bool} {key : String} {value : Value} {fields others : Fields}

theorem passing_cons_of_pos (passes : accepts key = true) :
    passing accepts ((key, value) :: fields) = (key, value) :: passing accepts fields :=
  List.filter_cons_of_pos passes

theorem passing_cons_of_neg (fails : accepts key = false) :
    passing accepts ((key, value) :: fields) = passing accepts fields :=
  List.filter_cons_of_neg (by simpa using fails)

@[simp] theorem passing_append :
    passing accepts (fields ++ others) = passing accepts fields ++ passing accepts others :=
  List.filter_append fields others

/-- A field whose name fails is of no account, be it put in or put in place of another. -/
theorem passing_insert_of_neg (fails : accepts key = false) :
    passing accepts (insert key value fields) = passing accepts fields := by
  induction fields with
  | nil => exact passing_cons_of_neg fails
  | cons field rest ih =>
    obtain ⟨other, kept⟩ := field
    unfold insert
    split
    · exact passing_cons_of_neg fails
    · split
      · next same =>
        subst same
        rw [passing_cons_of_neg fails, passing_cons_of_neg fails]
      · cases passes : accepts other with
        | true => rw [passing_cons_of_pos passes, passing_cons_of_pos passes, ih]
        | false => rw [passing_cons_of_neg passes, passing_cons_of_neg passes, ih]

theorem passing_insert_of_pos (passes : accepts key = true) (new : key ∉ (passing accepts fields).map Prod.fst) :
    (passing accepts (insert key value fields)).Perm ((key, value) :: passing accepts fields) := by
  induction fields with
  | nil => rw [insert, passing_cons_of_pos passes]
  | cons field rest ih =>
    obtain ⟨other, kept⟩ := field
    unfold insert
    split
    · rw [passing_cons_of_pos passes]
    · split
      · next same =>
        subst same
        rw [passing_cons_of_pos passes] at new
        exact absurd List.mem_cons_self new
      · cases accepted : accepts other with
        | true =>
          rw [passing_cons_of_pos accepted] at new ⊢
          rw [passing_cons_of_pos accepted]
          exact ((ih fun member => new (List.mem_cons_of_mem _ member)).cons _).trans (.swap ..)
        | false =>
          rw [passing_cons_of_neg accepted] at new ⊢
          rw [passing_cons_of_neg accepted]
          exact ih new

/-- Ordering keeps the fields whose names pass if no two of these have one name. -/
theorem passing_ordered (once : ((passing accepts fields).map Prod.fst).Nodup) :
    (passing accepts (ordered fields)).Perm (passing accepts fields) := by
  have folded (rest sorted : Fields) (once : ((passing accepts (sorted ++ rest)).map Prod.fst).Nodup) :
      (passing accepts (rest.foldl (fun sorted field => insert field.1 field.2 sorted) sorted)).Perm
        (passing accepts (sorted ++ rest)) := by
    induction rest generalizing sorted with
    | nil => rw [List.append_nil, List.foldl_nil]
    | cons field others ih =>
      obtain ⟨key, value⟩ := field
      have later := ih (insert key value sorted)
      rw [List.foldl_cons]
      rw [passing_append] at once later ⊢
      cases passes : accepts key with
      | false =>
        rw [passing_cons_of_neg passes] at once ⊢
        rw [passing_insert_of_neg passes] at later
        exact later once
      | true =>
        rw [passing_cons_of_pos passes] at once ⊢
        have front := List.perm_middle.map Prod.fst |>.nodup_iff.mp once
        have new : key ∉ (passing accepts sorted).map Prod.fst := fun member =>
          (List.nodup_cons.mp front).1 (by rw [List.map_append]; exact List.mem_append_left _ member)
        have inserted : (passing accepts (insert key value sorted) ++ passing accepts others).Perm
            ((key, value) :: passing accepts sorted ++ passing accepts others) :=
          (passing_insert_of_pos passes new).append_right _
        exact (later ((inserted.map Prod.fst).nodup_iff.mpr front)).trans (inserted.trans List.perm_middle.symm)
  exact folded fields [] once

/-- The fields that a record is written with: under declared names, and under none of them twice. -/
structure Declared (names : List String) (given : Fields) : Prop where
  named : ∀ field ∈ given, field.1 ∈ names
  once : (given.map Prod.fst).Nodup

/-- Fields that carry those of a record, in any order and among others with names that are not declared. -/
def Carry (names : List String) (given fields : Fields) : Prop :=
  ∃ unknown : Fields, fields.Perm (given ++ unknown) ∧ ∀ field ∈ unknown, field.1 ∉ names

variable {names : List String} {given : Fields}

theorem Carry.refl (names : List String) (given : Fields) : Carry names given given :=
  ⟨[], by rw [List.append_nil], by simp⟩

theorem Carry.passing (carry : Carry names given fields) (only : ∀ name, accepts name = true → name ∈ names) :
    (fields.passing accepts).Perm (given.passing accepts) := by
  obtain ⟨unknown, order, undeclared⟩ := carry
  have none_left : unknown.passing accepts = [] :=
    List.filter_eq_nil_iff.mpr fun field member accepted => undeclared field member (only _ accepted)
  have filtered : (fields.passing accepts).Perm ((given ++ unknown).passing accepts) := order.filter _
  rwa [passing_append, none_left, List.append_nil] at filtered

/-- What carries a record is what is left of it behind the test for the declared names. -/
theorem Declared.carry_iff (declared : Declared names given) :
    Carry names given fields ↔ (fields.passing names.contains).Perm given := by
  have all_given : given.passing names.contains = given :=
    List.filter_eq_self.mpr fun field member => List.contains_iff_mem.mpr (declared.named field member)
  constructor
  · intro carry
    have left := carry.passing fun name => List.contains_iff_mem.mp
    rwa [all_given] at left
  · intro left
    refine ⟨fields.filter fun field => !names.contains field.1, ?_, ?_⟩
    · exact (List.filter_append_perm _ fields).symm.trans (left.append_right _)
    · intro field member inside
      have other := (List.mem_filter.mp member).2
      rw [List.contains_iff_mem.mpr inside] at other
      cases other

theorem passing_name (once : (given.map Prod.fst).Nodup) (name : String) :
    given.passing [name].contains = ((given.lookup name).map (name, ·)).toList := by
  induction given with
  | nil => rfl
  | cons field rest ih =>
    obtain ⟨key, value⟩ := field
    obtain ⟨absent, once⟩ := List.nodup_cons.mp once
    by_cases same : key = name
    · subst same
      have none_left : passing [key].contains rest = [] := by
        refine List.filter_eq_nil_iff.mpr fun field member equal => absent ?_
        exact List.mem_map.mpr ⟨field, member, List.mem_singleton.mp (List.contains_iff_mem.mp equal)⟩
      rw [passing_cons_of_pos (by simp), none_left, List.lookup_cons_self]
      rfl
    · rw [passing_cons_of_neg (by simpa using same), ih once, List.lookup_cons, beq_false_of_ne (Ne.symm same)]

/-- A declared field is found in whatever carries the record, as the record has it. -/
theorem Carry.spelled? (carry : Carry names given fields) (declared : Declared names given) {name : String}
    (member : name ∈ names) : Slots.spelled? fields [name] = some (given.lookup name) := by
  have found : (fields.passing [name].contains).Perm (given.passing [name].contains) :=
    carry.passing fun other accepted => List.mem_singleton.mp (List.contains_iff_mem.mp accepted) ▸ member
  rw [passing_name declared.once] at found
  unfold Slots.spelled?
  cases result : given.lookup name with
  | none =>
    rw [result] at found
    have empty : (fields.filter fun field => [name].contains field.1) = [] := List.perm_nil.mp found
    rw [empty]
  | some value =>
    rw [result] at found
    have only : (fields.filter fun field => [name].contains field.1) = [(name, value)] := List.perm_singleton.mp found
    rw [only]

/-- Every declared field gets what the record has for it. -/
theorem Carry.ofValue? (carry : Carry names given fields) (declared : Declared names given) :
    Slots.ofValue? (names.map ([·])) (.object fields) = some ⟨false, names.map (List.lookup · given)⟩ := by
  have each (wanted : List String) (inside : ∀ name ∈ wanted, name ∈ names) :
      (wanted.map ([·])).mapM (Slots.spelled? fields) = some (wanted.map (List.lookup · given)) := by
    induction wanted with
    | nil => rfl
    | cons name rest ih =>
      rw [List.map_cons, List.mapM_cons, carry.spelled? declared (inside name List.mem_cons_self),
        ih fun other member => inside other (List.mem_cons_of_mem _ member)]
      rfl
  rw [Slots.ofValue?, each names fun _ member => member]
  rfl

theorem Declared.orderedFields (declared : Declared names given) : Declared names (Value.orderedFields given) := by
  rw [Value.orderedFields_eq]
  constructor
  · intro field member
    obtain ⟨source, inside, rfl⟩ := List.mem_map.mp member
    exact declared.named source inside
  · rw [List.map_map]
    exact declared.once

/-- What carries a record still does when the fields of every object in it are ordered by key. -/
theorem Carry.ordered (carry : Carry names given fields) (declared : Declared names given) :
    Carry names (Value.orderedFields given) (ordered (Value.orderedFields fields)) := by
  obtain ⟨unknown, order, undeclared⟩ := carry
  have carried : Carry names (Value.orderedFields given) (Value.orderedFields fields) := by
    refine ⟨Value.orderedFields unknown, ?_, ?_⟩
    · simp only [Value.orderedFields_eq, ← List.map_append]
      exact order.map _
    · intro field member
      rw [Value.orderedFields_eq] at member
      obtain ⟨source, inside, rfl⟩ := List.mem_map.mp member
      exact undeclared source inside
  have left := declared.orderedFields.carry_iff.mp carried
  have once := (left.map Prod.fst).nodup_iff.mpr declared.orderedFields.once
  exact declared.orderedFields.carry_iff.mpr ((passing_ordered once).trans left)

end Fields

end RouteExplorer.Json
