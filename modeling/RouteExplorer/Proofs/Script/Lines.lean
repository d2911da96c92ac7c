import Mathlib.Data.List.Induction
import RouteExplorer.Proofs.Text.Pieces
import RouteExplorer.Script.Source

namespace RouteExplorer

namespace Text

def byteCount : List Char → Nat
  | [] => 0
  | head :: rest => head.utf8Size + byteCount rest

/-- What is behind the first bytes; nothing if they end within a character or are more than there are. -/
def dropBytes : Nat → List Char → Option (List Char)
  | 0, characters => some characters
  | _ + 1, [] => none
  | bytes + 1, head :: rest =>
    if head.utf8Size ≤ bytes + 1 then dropBytes (bytes + 1 - head.utf8Size) rest else none

theorem byteCount_append (front back : List Char) : byteCount (front ++ back) = byteCount front + byteCount back := by
  induction front with
  | nil => simp [byteCount]
  | cons head rest ih => simp [byteCount, ih, Nat.add_assoc]

theorem dropBytes_byteCount (front back : List Char) : dropBytes (byteCount front) (front ++ back) = some back := by
  induction front with
  | nil => simp [byteCount, dropBytes]
  | cons head rest ih =>
    have positive : 0 < head.utf8Size := head.utf8Size_pos
    have count : byteCount (head :: rest) = head.utf8Size + byteCount rest := rfl
    cases bytes : byteCount (head :: rest) with
    | zero => omega
    | succ fewer =>
      have left : fewer + 1 - head.utf8Size = byteCount rest := by omega
      rw [List.cons_append, dropBytes, if_pos (by omega), left, ih]

theorem exists_splitChars_append (separator : Char) (word rest : List Char) (absent : separator ∉ word) :
    ∃ first others, splitChars separator (word ++ rest) = (word ++ first) :: others := by
  induction word with
  | nil =>
    obtain ⟨first, others, pieces⟩ := List.exists_cons_of_ne_nil (splitChars_ne_nil separator rest)
    exact ⟨first, others, pieces⟩
  | cons head word ih =>
    obtain ⟨different, later⟩ : separator ≠ head ∧ separator ∉ word := by simpa using absent
    obtain ⟨first, others, pieces⟩ := ih later
    exact ⟨first, others, by simp [splitChars, Ne.symm different, pieces]⟩

end Text

namespace Script

open Text (splitChars byteCount dropBytes)

/-- Earlier in a text: in an earlier row, or in the same one at an earlier byte. -/
def Position.Before (one other : Position) : Prop :=
  one.row < other.row ∨ one.row = other.row ∧ one.column < other.column

namespace Position

theorem Before.trans {one other third : Position} (first : one.Before other) (second : other.Before third) :
    one.Before third := by
  unfold Before at *
  omega

theorem before_after (position : Position) (character : Char) : position.Before (position.after character) := by
  have bytes := character.utf8Size_pos
  unfold after
  split
  · exact .inl (Nat.lt_succ_self _)
  · exact .inr ⟨rfl, by dsimp only; omega⟩

theorem before_foldl (position : Position) {text : List Char} (longer : text ≠ []) :
    position.Before (text.foldl after position) := by
  induction text generalizing position with
  | nil => exact absurd rfl longer
  | cons character rest ih =>
    have next := position.before_after character
    cases rest with
    | nil => exact next
    | cons other rest => exact next.trans (ih _ (List.cons_ne_nil other rest))

/-- Cut behind some text, the lines from the row there on are those of what follows; the first of them lies behind
as many bytes as the column says. -/
theorem exists_drop_row (front back : List Char) :
    ∃ left, byteCount left = (front.foldl after ⟨0, 0⟩).column ∧
      ∀ first others, splitChars '\n' back = first :: others →
        (splitChars '\n' (front ++ back)).drop (front.foldl after ⟨0, 0⟩).row = (left ++ first) :: others := by
  -- from the end, since the last character decides whether a line is begun or goes on
  induction front using List.reverseRecOn generalizing back with
  | nil => exact ⟨[], rfl, fun _ _ lines => lines⟩
  | append_singleton front last ih =>
    obtain ⟨left, bytes, drops⟩ := ih (last :: back)
    rw [List.foldl_append, List.foldl_cons, List.foldl_nil, List.append_assoc, List.singleton_append]
    by_cases ends : last = '\n'
    · subst ends
      have place : (front.foldl after ⟨0, 0⟩).after '\n' = ⟨(front.foldl after ⟨0, 0⟩).row + 1, 0⟩ := if_pos rfl
      refine ⟨[], by rw [place]; rfl, fun first others lines => ?_⟩
      have dropped := drops [] (splitChars '\n' back) (by rw [splitChars, if_pos rfl])
      rw [place, ← List.drop_drop, dropped, List.drop_one, List.tail_cons, lines, List.nil_append]
    · have place : (front.foldl after ⟨0, 0⟩).after last =
          ⟨(front.foldl after ⟨0, 0⟩).row, (front.foldl after ⟨0, 0⟩).column + last.utf8Size⟩ := if_neg ends
      refine ⟨left ++ [last], by rw [place, Text.byteCount_append, bytes]; rfl, fun first others lines => ?_⟩
      have dropped := drops (last :: first) others (by rw [splitChars, if_neg ends, lines])
      rw [place, dropped, List.append_assoc, List.singleton_append]

end Position

namespace Source

theorem position_before {source : Source} {offset other : Nat} (further : offset < other)
    (inside : other ≤ source.characters.size) : (source.position offset).Before (source.position other) := by
  have size : source.characters.toList.length = source.characters.size := Array.length_toList
  have splits := List.take_append_drop offset (source.characters.toList.take other)
  rw [List.take_take, Nat.min_eq_left (Nat.le_of_lt further)] at splits
  unfold position
  rw [← splits, List.foldl_append]
  refine Position.before_foldl _ (List.ne_nil_of_length_pos ?_)
  rw [List.length_drop, List.length_take]
  omega

/-- The text at a place: what is left of a line, the first one being line one, when some bytes are dropped. -/
def textAt? (source : Source) : Nat → Nat → Option (List Char)
  | 0, _ => none
  | row + 1, column => (splitChars '\n' source.characters.toList)[row]?.bind (dropBytes column)

theorem exists_textAt? {source : Source} {start stop : Nat} (absent : '\n' ∉ source.slice start stop) :
    ∃ rest, source.textAt? ((source.position start).row + 1) (source.position start).column =
      some (source.slice start stop ++ rest) := by
  have word : source.slice start stop = (source.characters.toList.drop start).take (stop - start) := by
    rw [slice, Array.toList_extract, List.extract_eq_take_drop]
  have behind := List.take_append_drop (stop - start) (source.characters.toList.drop start)
  rw [← word] at behind
  obtain ⟨rest, others, lines⟩ := Text.exists_splitChars_append '\n' _
    ((source.characters.toList.drop start).drop (stop - start)) absent
  rw [behind] at lines
  obtain ⟨left, bytes, drops⟩ := Position.exists_drop_row (source.characters.toList.take start)
    (source.characters.toList.drop start)
  have dropped := drops _ others lines
  rw [List.take_append_drop] at dropped
  refine ⟨rest, ?_⟩
  have line : (splitChars '\n' source.characters.toList)[(source.position start).row]? =
      some (left ++ (source.slice start stop ++ rest)) := by
    rw [← List.head?_drop, position, dropped, List.head?_cons]
  rw [textAt?, line, Option.bind_some, position, ← bytes, Text.dropBytes_byteCount]

end Source

end Script

end RouteExplorer
