import Mathlib.Data.String.Basic

namespace RouteExplorer.Text

theorem byte_cons_lt {left right : Nat} (left_fits : left < 256) (right_fits : right < 256)
    {front back : List UInt8} : UInt8.ofNat left :: front < UInt8.ofNat right :: back ↔
      left < right ∨ left = right ∧ front < back := by
  rw [List.cons_lt_cons_iff, UInt8.lt_iff_toNat_lt, ← UInt8.toNat_inj, UInt8.toNat_ofNat', UInt8.toNat_ofNat',
    Nat.mod_eq_of_lt left_fits, Nat.mod_eq_of_lt right_fits]

/-- The last bytes of a code, with six of its bits in each. -/
def continuation : Nat → Nat → List UInt8
  | 0, _ => []
  | count + 1, code => continuation count (code / 64) ++ [UInt8.ofNat (code % 64 + 0x80)]

/-- A first byte with a mark, and the bytes that continue it. -/
def marked (mark count code : Nat) : List UInt8 :=
  UInt8.ofNat (code / 64 ^ count + mark) :: continuation count code

theorem continuation_append_lt {count low high : Nat} (less : low < high)
    (same : low / 64 ^ count = high / 64 ^ count) (front back : List UInt8) :
    continuation count low ++ front < continuation count high ++ back := by
  induction count generalizing low high front back with
  | zero => simp at same; omega
  | succ count ih =>
    have bits (code : Nat) : code % 64 + 0x80 < 256 := by omega
    simp only [continuation, List.append_assoc, List.singleton_append]
    -- the codes differ before their last six bits or only in these
    by_cases earlier : low / 64 = high / 64
    · rw [earlier]
      exact List.append_left_lt ((byte_cons_lt (bits low) (bits high)).mpr (.inl (by omega)))
    · refine ih (by omega) ?_ _ _
      rwa [Nat.div_div_eq_div_mul, Nat.div_div_eq_div_mul, Nat.mul_comm, ← Nat.pow_succ]

theorem marked_append_lt {mark count low high : Nat} (less : low < high) (fits : high / 64 ^ count + mark < 256)
    (front back : List UInt8) : marked mark count low ++ front < marked mark count high ++ back := by
  have atMost : low / 64 ^ count ≤ high / 64 ^ count := Nat.div_le_div_right (Nat.le_of_lt less)
  rw [marked, marked, List.cons_append, List.cons_append, byte_cons_lt (by omega) fits]
  rcases Nat.lt_or_eq_of_le atMost with smaller | same
  · exact .inl (by omega)
  · exact .inr ⟨by rw [same], continuation_append_lt less same front back⟩

/-- The mark and the number of further bytes of a code. -/
def layout (code : Nat) : Nat × Nat :=
  if code ≤ 0x7f then (0, 0) else if code ≤ 0x7ff then (0xc0, 1) else if code ≤ 0xffff then (0xe0, 2)
  else (0xf0, 3)

theorem code_lt (character : Char) : character.val.toNat < 0x110000 := by
  have valid := character.valid
  unfold UInt32.isValidChar Nat.isValidChar at valid
  omega

/-- The encoding of a character is laid out by its code. -/
theorem utf8EncodeChar_eq (character : Char) : String.utf8EncodeChar character =
    marked (layout character.val.toNat).1 (layout character.val.toNat).2 character.val.toNat := by
  have bound := code_lt character
  unfold String.utf8EncodeChar
  generalize character.val.toNat = code at bound
  -- the bits of the first byte are all that are left before the other ones
  have two (fits : code ≤ 0x7ff) : code / 64 % 0x20 = code / 64 := by omega
  have three (fits : code ≤ 0xffff) : code / 4096 % 0x10 = code / 4096 := by omega
  have four : code / 262144 % 8 = code / 262144 := by omega
  have nested : code / 64 / 64 = code / 4096 := Nat.div_div_eq_div_mul code 64 64
  by_cases one : code ≤ 0x7f
  · simp [layout, one, marked, continuation]
  by_cases short : code ≤ 0x7ff
  · simp [layout, one, short, two, marked, continuation]
  by_cases long : code ≤ 0xffff
  · simp [layout, one, short, long, three, marked, continuation]
  · simp [layout, one, short, long, four, nested, marked, continuation]

theorem lead_fits {code : Nat} (bound : code < 0x110000) :
    code / 64 ^ (layout code).2 + (layout code).1 < 256 := by
  unfold layout
  split_ifs <;> (simp only [pow_zero]; omega)

/-- The first byte of a longer encoding is larger. -/
theorem lead_lt {low high : Nat} (less : low < high) (other : layout low ≠ layout high) :
    low / 64 ^ (layout low).2 + (layout low).1 < high / 64 ^ (layout high).2 + (layout high).1 := by
  unfold layout at other ⊢
  split_ifs at other ⊢ <;> first | exact absurd rfl other | (simp only [pow_zero]; omega)

theorem encode_append_lt {left right : Char} (less : left < right) (front back : List UInt8) :
    String.utf8EncodeChar left ++ front < String.utf8EncodeChar right ++ back := by
  have codes : left.val.toNat < right.val.toNat := less
  have left_fits := lead_fits (code_lt left)
  have right_fits := lead_fits (code_lt right)
  rw [utf8EncodeChar_eq left, utf8EncodeChar_eq right]
  by_cases same : layout left.val.toNat = layout right.val.toNat
  · rw [same]
    exact marked_append_lt codes right_fits front back
  · rw [marked, marked, List.cons_append, List.cons_append, byte_cons_lt left_fits right_fits]
    exact .inl (lead_lt codes same)

private theorem toList_loop (bytes : ByteArray) (index : Nat) (read : List UInt8) :
    ByteArray.toList.loop bytes index read = read.reverse ++ bytes.data.toList.drop index := by
  fun_induction ByteArray.toList.loop bytes index read with
  | case1 index read inside ih =>
    have here : index < bytes.data.toList.length := by simpa using inside
    have same : bytes.get! index = bytes.data.toList[index] := by
      have within : index < bytes.data.size := by simpa using here
      simpa [ByteArray.get!] using getElem!_pos bytes.data index within
    rw [ih, List.drop_eq_getElem_cons here]
    simp [same]
  | case2 index read outside =>
    have beyond : bytes.data.toList.length ≤ index := by simpa using outside
    simp [List.drop_eq_nil_of_le beyond]

theorem toList_bytes (bytes : ByteArray) : bytes.toList = bytes.data.toList := toList_loop bytes 0 []

theorem toList_toUTF8 (text : String) : text.toUTF8.toList = text.toList.flatMap String.utf8EncodeChar := by
  rw [toList_bytes, String.toUTF8_eq_toByteArray, ← String.utf8Encode_toList, List.utf8Encode,
    List.toList_data_toByteArray]

theorem flatMap_encode_lt {left right : List Char} (less : left < right) :
    left.flatMap String.utf8EncodeChar < right.flatMap String.utf8EncodeChar := by
  induction left generalizing right with
  | nil =>
    cases right with
    | nil => exact absurd less (List.lt_irrefl _)
    | cons head rest =>
      obtain ⟨byte, others, shape⟩ := List.exists_cons_of_ne_nil (String.utf8EncodeChar_ne_nil (c := head))
      rw [List.flatMap_cons, shape]
      exact List.nil_lt_cons _ _
  | cons head rest ih =>
    cases right with
    | nil => exact absurd less (List.not_lt_nil _)
    | cons other others =>
      rw [List.flatMap_cons, List.flatMap_cons]
      rcases List.cons_lt_cons_iff.mp less with smaller | ⟨rfl, later⟩
      · exact encode_append_lt smaller _ _
      · exact List.append_left_lt (ih later)

/-- The order of texts is the order of their bytes. -/
theorem toUTF8_lt_iff {left right : String} : left.toUTF8.toList < right.toUTF8.toList ↔ left < right := by
  rw [toList_toUTF8, toList_toUTF8, String.lt_iff]
  constructor
  · intro less
    rcases lt_trichotomy left.toList right.toList with smaller | same | larger
    · exact smaller
    · rw [same] at less
      exact absurd less (List.lt_irrefl _)
    · exact absurd less (List.lt_asymm (flatMap_encode_lt larger))
  · exact flatMap_encode_lt

end RouteExplorer.Text
