import RouteExplorer.Json.Decode

namespace RouteExplorer.Json

theorem Fields.lookup_insert (key : String) (value : Value) (fields : Fields) (wanted : String) :
    (insert key value fields).lookup wanted =
      if wanted = key then some value else fields.lookup wanted := by
  induction fields with
  | nil =>
    by_cases same : wanted = key
    · simp [insert, same]
    · simp [insert, List.lookup_cons, same, beq_false_of_ne same]
  | cons field rest ih =>
    obtain ⟨other, kept⟩ := field
    unfold insert
    split
    · by_cases same : wanted = key
      · simp [same]
      · rw [List.lookup_cons, beq_false_of_ne same, if_neg same]
    · split
      · next later equal =>
        subst equal
        by_cases same : wanted = key
        · simp [same]
        · rw [List.lookup_cons, List.lookup_cons, beq_false_of_ne same, if_neg same]
      · next later different =>
        rw [List.lookup_cons, List.lookup_cons, ih]
        by_cases here : wanted = other
        · have apart : wanted ≠ key := fun same => different (same.symm.trans here)
          simp [here, here ▸ apart]
        · rw [beq_false_of_ne here]

/-- Of several fields with one key the last one is found. -/
theorem Fields.lookup_ordered (fields : Fields) (wanted : String) :
    (ordered fields).lookup wanted = fields.reverse.lookup wanted := by
  have folded (rest sorted : Fields) :
      (rest.foldl (fun sorted field => insert field.1 field.2 sorted) sorted).lookup wanted =
        (rest.reverse.lookup wanted).or (sorted.lookup wanted) := by
    induction rest generalizing sorted with
    | nil => rfl
    | cons field others ih =>
      obtain ⟨key, value⟩ := field
      rw [List.foldl_cons, ih, lookup_insert, List.reverse_cons, List.lookup_append, Option.or_assoc]
      congr 1
      by_cases same : wanted = key
      · simp [same]
      · simp [same, List.lookup_cons, beq_false_of_ne same]
  rw [ordered, folded]
  simp

namespace Value

theorem orderedFields_eq (fields : Fields) :
    orderedFields fields = fields.map fun field => (field.1, field.2.ordered) := by
  induction fields with
  | nil => rfl
  | cons field rest ih => rw [orderedFields, ih, List.map_cons]

theorem get_ordered (fields : Fields) (key : String) :
    (Value.object fields).ordered.get key =
      ((fields.map fun field => (field.1, field.2.ordered)).reverse.lookup key).getD .null := by
  rw [ordered, get, Fields.lookup_ordered, orderedFields_eq]

theorem orderedItems_eq (items : List Value) : orderedItems items = items.map ordered := by
  induction items with
  | nil => rfl
  | cons item rest ih => rw [orderedItems, ih, List.map_cons]

end Value

end RouteExplorer.Json
