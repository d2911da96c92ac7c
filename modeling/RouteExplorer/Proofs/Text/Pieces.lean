import Mathlib.Data.List.Basic
import RouteExplorer.Text.Blank
import RouteExplorer.Text.Split

namespace RouteExplorer.Text

theorem takeWhile_append_cons (keeps : Char → Bool) {stop : Char} (stops : keeps stop = false)
    (front back : List Char) : (front ++ stop :: back).takeWhile keeps = front.takeWhile keeps := by
  induction front with
  | nil => simp [stops]
  | cons head rest ih => simp [List.takeWhile_cons, ih]

theorem dropWhile_append_cons (keeps : Char → Bool) {stop : Char} (stops : keeps stop = false)
    (front back : List Char) :
    (front ++ stop :: back).dropWhile keeps = front.dropWhile keeps ++ stop :: back := by
  induction front with
  | nil => simp [stops]
  | cons head rest ih =>
    rw [List.cons_append, List.dropWhile_cons, List.dropWhile_cons, ih]
    split <;> rfl

theorem dropAround_eq_self {inClass : Char → Bool} {characters : List Char}
    (front : ∀ first ∈ characters.head?, inClass first = false)
    (back : ∀ last ∈ characters.getLast?, inClass last = false) : dropAround inClass characters = characters := by
  have kept {text : List Char} (visible : ∀ first ∈ text.head?, inClass first = false) :
      text.dropWhile inClass = text := by
    cases text with
    | nil => rfl
    | cons head rest => exact List.dropWhile_cons_of_neg (by simp [visible head rfl])
  rw [dropAround, kept front, kept (by simpa using back), List.reverse_reverse]

theorem mem_of_mem_dropAround {inClass : Char → Bool} {character : Char} {characters : List Char}
    (member : character ∈ dropAround inClass characters) : character ∈ characters := by
  have inside := (List.dropWhile_sublist _).mem (List.mem_reverse.mp member)
  exact (List.dropWhile_sublist _).mem (List.mem_reverse.mp inside)

theorem not_mem_of_mem_splitChars {separator : Char} {characters piece : List Char}
    (member : piece ∈ splitChars separator characters) : separator ∉ piece := by
  induction characters generalizing piece with
  | nil => simp_all [splitChars]
  | cons head rest ih =>
    rw [splitChars] at member
    split at member
    · rcases List.mem_cons.mp member with rfl | later
      · exact List.not_mem_nil
      · exact ih later
    · next different =>
      obtain ⟨first, others, pieces⟩ := List.exists_cons_of_ne_nil (splitChars_ne_nil separator rest)
      rw [pieces] at member ih
      rcases List.mem_cons.mp member with rfl | later
      · exact List.not_mem_cons_of_ne_of_not_mem (Ne.symm different) (ih List.mem_cons_self)
      · exact ih (List.mem_cons_of_mem _ later)

theorem not_mem_of_mem_split {separator : Char} {text piece : String} (member : piece ∈ split separator text) :
    separator ∉ piece.toList := by
  obtain ⟨characters, cut, rfl⟩ := List.mem_map.mp member
  simpa using not_mem_of_mem_splitChars cut

/-- A separator ends the last piece of what stands before it. -/
theorem splitChars_append_separator (separator : Char) (before after : List Char) :
    splitChars separator (before ++ separator :: after) =
      splitChars separator before ++ splitChars separator after := by
  induction before with
  | nil => simp [splitChars]
  | cons head rest ih =>
    by_cases same : head = separator
    · simp [splitChars, same, ih]
    · cases pieces : splitChars separator rest with
      | nil => exact absurd pieces (splitChars_ne_nil separator rest)
      | cons first others => simp [splitChars, same, ih, pieces]

theorem splitChars_of_not_mem (separator : Char) (characters : List Char)
    (absent : separator ∉ characters) : splitChars separator characters = [characters] := by
  induction characters with
  | nil => rfl
  | cons head rest ih =>
    obtain ⟨different, later⟩ : separator ≠ head ∧ separator ∉ rest := by simpa using absent
    simp [splitChars, Ne.symm different, ih later]

/-- Joined pieces are cut where each of them is, and between them. -/
theorem splitChars_joinChars_flatMap (separator : Char) {pieces : List (List Char)} (nonempty : pieces ≠ []) :
    splitChars separator (joinChars separator pieces) = pieces.flatMap (splitChars separator) := by
  induction pieces with
  | nil => exact absurd rfl nonempty
  | cons piece rest ih =>
    cases rest with
    | nil => simp [joinChars]
    | cons next others =>
      have joined : joinChars separator (piece :: next :: others) =
          piece ++ separator :: joinChars separator (next :: others) := rfl
      rw [joined, splitChars_append_separator, ih (by simp)]
      rfl

/-- Cutting joined pieces gives them back, when none holds the separator. -/
theorem splitChars_joinChars (separator : Char) (pieces : List (List Char)) (nonempty : pieces ≠ [])
    (clean : ∀ piece ∈ pieces, separator ∉ piece) :
    splitChars separator (joinChars separator pieces) = pieces :=
  calc splitChars separator (joinChars separator pieces)
    _ = pieces.flatMap (splitChars separator) := splitChars_joinChars_flatMap separator nonempty
    _ = pieces.flatMap fun piece => [piece] :=
      List.flatMap_congr fun piece member => splitChars_of_not_mem separator piece (clean piece member)
    _ = pieces := List.flatMap_singleton' pieces

theorem eq_or_mem_of_mem_joinChars {separator character : Char} {pieces : List (List Char)}
    (member : character ∈ joinChars separator pieces) :
    character = separator ∨ ∃ piece ∈ pieces, character ∈ piece := by
  induction pieces with
  | nil => simp [joinChars] at member
  | cons piece rest ih =>
    cases rest with
    | nil => exact .inr ⟨piece, by simp, by simpa [joinChars] using member⟩
    | cons next others =>
      simp only [joinChars, List.mem_append, List.mem_cons] at member
      rcases member with first | same | later
      · exact .inr ⟨piece, by simp, first⟩
      · exact .inl same
      · rcases ih later with same | ⟨found, present, inside⟩
        · exact .inl same
        · exact .inr ⟨found, List.mem_cons_of_mem _ present, inside⟩

theorem split_join_flatMap (separator : Char) {pieces : List String} (nonempty : pieces ≠ []) :
    split separator (join separator pieces) = pieces.flatMap (split separator) := by
  have filled : pieces.map String.toList ≠ [] := by simpa using nonempty
  rw [split, join, String.toList_ofList, splitChars_joinChars_flatMap separator filled, List.flatMap_map,
    List.map_flatMap]
  rfl

theorem split_join (separator : Char) (pieces : List String) (nonempty : pieces ≠ [])
    (clean : ∀ piece ∈ pieces, separator ∉ piece.toList) :
    split separator (join separator pieces) = pieces := by
  have cut := splitChars_joinChars separator (pieces.map String.toList) (by simpa using nonempty)
    (by simpa using clean)
  simp [split, join, cut, Function.comp_def]

theorem joinChars_cons (separator : Char) (piece : List Char) (others : List (List Char)) :
    joinChars separator (piece :: others) = piece ++ others.flatMap (separator :: ·) := by
  induction others generalizing piece with
  | nil => simp [joinChars]
  | cons next rest ih => simp [joinChars, ih next]

theorem toList_intercalate (separator : Char) (pieces : List String) :
    (String.intercalate (String.singleton separator) pieces).toList =
      joinChars separator (pieces.map String.toList) := by
  induction pieces with
  | nil => rfl
  | cons piece rest ih =>
    cases rest with
    | nil => simp [joinChars]
    | cons next others =>
      rw [String.intercalate_cons_of_ne_nil (List.cons_ne_nil _ _)]
      simp [ih, joinChars]

private theorem joinChars_append (separator : Char) {front back : List (List Char)} (filled : front ≠ [])
    (nonempty : back ≠ []) :
    joinChars separator (front ++ back) =
      joinChars separator front ++ separator :: joinChars separator back := by
  induction front with
  | nil => exact absurd rfl filled
  | cons piece rest ih =>
    cases rest with
    | nil =>
      obtain ⟨next, others, rfl⟩ := List.exists_cons_of_ne_nil nonempty
      simp [joinChars]
    | cons next others =>
      have later := ih (by simp)
      simp only [List.cons_append] at later ⊢
      simp [joinChars, later]

theorem join_append (separator : Char) {front back : List String} (filled : front ≠ [])
    (nonempty : back ≠ []) :
    join separator (front ++ back) =
      join separator front ++ String.ofList [separator] ++ join separator back := by
  apply String.toList_inj.mp
  rw [join, List.map_append, joinChars_append separator (by simpa using filled) (by simpa using nonempty)]
  simp [join]

end RouteExplorer.Text
