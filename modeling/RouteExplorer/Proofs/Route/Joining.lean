import RouteExplorer.Proofs.Route.Ownership
import RouteExplorer.Proofs.Route.Parameters
import RouteExplorer.Proofs.Text.Pieces

namespace RouteExplorer.Template

theorem withLeadingSlash_eq (characters : List Char) :
    withLeadingSlash characters = if characters.head? = some '/' then characters else '/' :: characters := by
  unfold withLeadingSlash
  split
  · rfl
  · next absent =>
    rw [if_neg]
    intro starts
    obtain ⟨rest, rfl⟩ := List.head?_eq_some_iff.mp starts
    exact absent rest rfl

/-- Two slashes side by side somewhere. -/
def Doubled (path : String) : Prop := ['/', '/'] <:+: path.toList

instance (path : String) : Decidable (Doubled path) := inferInstanceAs (Decidable (_ <:+: _))

theorem pair_infix_cons_iff (head : Char) (rest : List Char) :
    ['/', '/'] <:+: head :: rest ↔ head = '/' ∧ rest.head? = some '/' ∨ ['/', '/'] <:+: rest := by
  rw [List.infix_cons_iff, List.cons_prefix_cons, @eq_comm _ '/']
  cases rest <;> simp [List.cons_prefix_cons, @eq_comm _ '/']

theorem pair_infix_append (front back : List Char) : ['/', '/'] <:+: front ++ back ↔
    ['/', '/'] <:+: front ∨ ['/', '/'] <:+: back ∨ front.getLast? = some '/' ∧ back.head? = some '/' := by
  induction front with
  | nil => simp
  | cons head rest ih =>
    rw [List.cons_append, pair_infix_cons_iff, pair_infix_cons_iff, ih]
    cases rest with
    | nil => grind
    | cons next others => simp [or_assoc]

theorem pair_infix_withLeadingSlash (characters : List Char) :
    ['/', '/'] <:+: withLeadingSlash characters ↔ ['/', '/'] <:+: characters := by
  rw [withLeadingSlash_eq]
  split
  · rfl
  · next other => simp [pair_infix_cons_iff, other]

theorem withLeadingSlash_eq_root (characters : List Char) :
    withLeadingSlash characters = ['/'] ↔ characters = [] ∨ characters = ['/'] := by
  rw [withLeadingSlash_eq]
  split
  · next starts => exact ⟨.inr, fun given => by grind⟩
  · next other => exact ⟨fun given => by grind, fun given => by grind⟩

theorem getLast?_withLeadingSlash {characters : List Char} (more : characters ≠ []) :
    (withLeadingSlash characters).getLast? = characters.getLast? := by
  rw [withLeadingSlash_eq]
  split
  · rfl
  · rw [List.getLast?_cons_of_ne_nil more]

/-- A full path starts with a slash. Slashes stand side by side in it exactly if they do in one of its parts, or if
the base ends in a slash, and is more than that, and there is a handler path. -/
theorem doubled_combine_iff (base route : String) :
    (combine base route).toList.head? = some '/' ∧
      (Doubled (combine base route) ↔ Doubled base ∨ Doubled route ∨
        base.toList.getLast? = some '/' ∧ base ≠ "/" ∧ route ≠ "") := by
  have rootChars : "/".toList = ['/'] := rfl
  have noChars : "".toList = [] := rfl
  refine ⟨head?_combine base route, ?_⟩
  simp only [Doubled, combine, String.toList_ofList, combineChars, ne_eq, ← String.toList_inj, rootChars, noChars]
  split
  · next noRoute => simp [noRoute, pair_infix_withLeadingSlash]
  · next someRoute =>
    split
    · next root =>
      rcases (withLeadingSlash_eq_root _).mp root with noBase | bare
      · simp [noBase, pair_infix_withLeadingSlash]
      · simp [bare, pair_infix_withLeadingSlash, pair_infix_cons_iff]
    · next more =>
      obtain ⟨someBase, notRoot⟩ := not_or.mp (mt (withLeadingSlash_eq_root _).mpr more)
      rw [pair_infix_append, pair_infix_withLeadingSlash, pair_infix_withLeadingSlash,
        getLast?_withLeadingSlash someBase]
      simp [notRoot, someRoute, head?_withLeadingSlash]

theorem catsFood_doubled :
    ¬Doubled "cats/" ∧ ¬Doubled "food" ∧ combine "cats/" "food" = "/cats//food" ∧ Doubled (combine "cats/" "food") := by
  decide +kernel

theorem parameterChars_slash (characters : List Char) : parameterChars ('/' :: characters) = parameterChars characters := by
  cases characters with
  | nil => simp [parameterChars]
  | cons first rest => rw [parameterChars, if_neg (by simp)]

theorem parameterChars_append_slash (front back : List Char) :
    parameterChars (front ++ '/' :: back) = parameterChars front ++ parameterChars back := by
  fun_induction parameterChars front with
  | case1 => exact parameterChars_slash back
  | case2 last =>
    rw [List.singleton_append, parameterChars, if_neg (by simp [isNameStart]), parameterChars_slash,
      List.nil_append]
  | case3 mark first rest named ih =>
    rw [List.cons_append, List.cons_append, parameterChars, if_pos named,
      Text.takeWhile_append_cons isNamePart (by rfl), Text.dropWhile_append_cons isNamePart (by rfl), ih,
      List.cons_append]
  | case4 mark first rest unnamed ih =>
    rw [List.cons_append, List.cons_append, parameterChars, if_neg unnamed, ← List.cons_append, ih]

theorem parameterChars_withLeadingSlash (characters : List Char) :
    parameterChars (withLeadingSlash characters) = parameterChars characters := by
  rw [withLeadingSlash_eq]
  split
  · rfl
  · exact parameterChars_slash characters

theorem parameterChars_append_withLeadingSlash (base route : List Char) :
    parameterChars (base ++ withLeadingSlash route) = parameterChars base ++ parameterChars route := by
  rw [← parameterChars_withLeadingSlash route]
  obtain ⟨rest, starts⟩ := List.head?_eq_some_iff.mp (head?_withLeadingSlash route)
  rw [starts, parameterChars_append_slash, parameterChars_slash]

theorem parameterChars_combineChars (base route : List Char) :
    parameterChars (combineChars base route) = parameterChars base ++ parameterChars route := by
  have nothing : parameterChars [] = [] := by rw [parameterChars]
  unfold combineChars
  split
  · next noRoute => rw [parameterChars_withLeadingSlash, noRoute, nothing, List.append_nil]
  · split
    · next root =>
      -- a base that is nothing but a slash has no parameters
      have none : parameterChars base = [] := by
        rw [← parameterChars_withLeadingSlash, root, parameterChars_slash, nothing]
      rw [parameterChars_withLeadingSlash, none, List.nil_append]
    · rw [parameterChars_append_withLeadingSlash, parameterChars_withLeadingSlash]

/-- The parameters of a joined path are those of its parts, in order and with repetitions. -/
theorem parameters_combine (base route : String) :
    parameters (combine base route) = parameters base ++ parameters route := by
  rw [parameters_eq, combine, String.toList_ofList, parameterChars_combineChars, List.map_append, parameters_eq,
    parameters_eq]

end RouteExplorer.Template
