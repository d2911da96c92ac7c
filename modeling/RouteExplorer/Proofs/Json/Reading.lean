import Mathlib.Data.Nat.Digits.Defs
import RouteExplorer.Json.Printer
import RouteExplorer.Json.Reader
import RouteExplorer.Proofs.Json.Fields
import RouteExplorer.Proofs.Text.Pieces

namespace RouteExplorer.Json

/-- A reader takes a text away and gives a result when it stands before what follows. -/
def Reads {α : Type} (reader : Reader α) (text follow : List Char) (result : α) : Prop :=
  ∀ offset, ∃ next, reader ⟨text ++ follow, offset⟩ = .ok (result, ⟨follow, next⟩)

namespace Reads

variable {α β : Type} {text more follow : List Char}

theorem pure (result : α) : Reads (Pure.pure result) [] follow result := fun offset => ⟨offset, rfl⟩

/-- One reader takes the front of a text and the next one the rest. -/
theorem bind {reader : Reader α} {next : α → Reader β} {result : α} {final : β}
    (first : Reads reader text (more ++ follow) result) (second : Reads (next result) more follow final) :
    Reads (reader >>= next) (text ++ more) follow final := by
  intro offset
  obtain ⟨between, reads⟩ := first offset
  obtain ⟨last, goesOn⟩ := second between
  refine ⟨last, ?_⟩
  rw [List.append_assoc]
  change Except.bind (reader _) _ = _
  rw [reads]
  exact goesOn

theorem look {reader : Reader α} {next : α → Reader β} {result : α} {final : β}
    (first : Reads reader [] (text ++ follow) result) (second : Reads (next result) text follow final) :
    Reads (reader >>= next) text follow final := by
  simpa using first.bind second

theorem last {reader : Reader α} {next : α → Reader β} {result : α} {final : β}
    (first : Reads reader text follow result) (second : Reads (next result) [] follow final) :
    Reads (reader >>= next) text follow final := by
  simpa using Reads.bind (List.nil_append follow ▸ first) second

theorem peek : Reads Reader.peek [] follow follow.head? := fun offset => ⟨offset, rfl⟩

theorem peekChar {character : Char} {next : Option Char → Reader β} {final : β}
    (second : Reads (next (some character)) (character :: text) follow final) :
    Reads (Reader.peek >>= next) (character :: text) follow final :=
  look peek second

theorem remaining : Reads Reader.remaining [] follow follow.length := fun offset => ⟨offset, rfl⟩

theorem skip (character : Char) : Reads Reader.skip [character] follow () :=
  fun offset => ⟨offset + character.utf8Size, rfl⟩

theorem skipChar {character : Char} {next : Unit → Reader β} {final : β} (second : Reads (next ()) text follow final) :
    Reads (Reader.skip >>= next) (character :: text) follow final :=
  bind (skip character) second

theorem skipWhile {accepts : Char → Bool} (inside : ∀ character ∈ text, accepts character = true)
    (outside : ∀ character, follow.head? = some character → accepts character = false) :
    Reads (Reader.skipWhile accepts) text follow text := by
  intro offset
  have stops : follow.takeWhile accepts = [] ∧ follow.dropWhile accepts = follow := by
    cases follow with
    | nil => exact ⟨rfl, rfl⟩
    | cons head rest => simp [outside head rfl]
  have taken : (text ++ follow).takeWhile accepts = text := by
    rw [List.takeWhile_append_of_pos inside, stops.1, List.append_nil]
  have left : (text ++ follow).dropWhile accepts = follow := by
    rw [List.dropWhile_append_of_pos inside, stops.2]
  exact ⟨_, by rw [Reader.skipWhile, taken, left]⟩

/-- White space is no part of what is printed. -/
theorem peekToken (solid : ∀ character, follow.head? = some character → Reader.isSpace character = false) :
    Reads Reader.peekToken [] follow follow.head? :=
  look (skipWhile (by simp) solid) peek

theorem token {character : Char} {rest : List Char} (solid : Reader.isSpace character = false) :
    Reads Reader.peekToken [] (character :: rest) (some character) :=
  peekToken fun _ same => Option.some.inj same ▸ solid

theorem peekTokenChar {character : Char} {next : Option Char → Reader β} {final : β}
    (solid : Reader.isSpace character = false)
    (second : Reads (next (some character)) (character :: text) follow final) :
    Reads (Reader.peekToken >>= next) (character :: text) follow final :=
  look (token solid) second

end Reads

namespace Reader

variable {follow : List Char}

theorem reads_simpleEscape {letter character : Char} (stands : simpleEscape? letter = some character) :
    Reads escape [letter] follow character := by
  refine .peekChar ?_
  have other : letter ≠ 'u' := by
    rintro rfl
    cases stands
  split
  · next same => exact absurd (Option.some.inj same) other
  · next same =>
    obtain rfl := Option.some.inj same
    simp only [stands]
    exact (Reads.skip _).bind (.pure _)
  · next absent => cases absent

theorem hexUnit?_control : ∀ code < 0x20,
    hexUnit? ['0', '0', hexDigit (code / 16), hexDigit (code % 16)] = some code := by
  decide

theorem reads_hexEscape {digits : List Char} {value : Nat} (four : digits.length = 4)
    (unit : hexUnit? digits = some value) : Reads hexEscape digits follow value := by
  intro offset
  have taken : (digits ++ follow).take 4 = digits := by rw [← four, List.take_left]
  have left : (digits ++ follow).drop 4 = follow := by rw [← four, List.drop_left]
  refine ⟨offset + 4, ?_⟩
  unfold hexEscape
  simp only [taken, unit, left]

theorem reads_controlEscape {character : Char} (control : character.toNat < 0x20) :
    Reads escape ['u', '0', '0', hexDigit (character.toNat / 16), hexDigit (character.toNat % 16)] follow
      character := by
  refine .peekChar ?_
  refine .skipChar ?_
  refine Reads.bind (reads_hexEscape rfl (hexUnit?_control _ control)) ?_
  rw [if_neg (by omega), if_neg (by omega), Char.ofNat_toNat]
  exact .pure _

theorem reads_escapedChar {fuel : Nat} {read final : List Char} {more : List Char} {character : Char}
    (later : Reads (stringBody fuel (character :: read)) more follow final) :
    Reads (stringBody (fuel + 1) read) (escapedChar character ++ more) follow final := by
  have behindBackslash {text : List Char} (escaped : Reads escape text (more ++ follow) character) :
      Reads (stringBody (fuel + 1) read) ('\\' :: text ++ more) follow final := by
    refine .peekChar ?_
    exact .skipChar (escaped.bind later)
  have behindLetter {code : Nat} (same : character.toNat = code) {letter : Char}
      (stands : simpleEscape? letter = some (Char.ofNat code)) :
      Reads (stringBody (fuel + 1) read) ('\\' :: [letter] ++ more) follow final :=
    behindBackslash (reads_simpleEscape (by rw [stands, ← same, Char.ofNat_toNat]))
  -- the cases are those of the printer, in its order
  unfold escapedChar
  dsimp only
  split
  · next same => exact behindLetter (congrArg Char.toNat same) rfl
  split
  · next same => exact behindLetter (congrArg Char.toNat same) rfl
  split
  · next same => exact behindLetter same rfl
  split
  · next same => exact behindLetter same rfl
  split
  · next same => exact behindLetter same rfl
  split
  · next same => exact behindLetter same rfl
  split
  · next same => exact behindLetter same rfl
  split
  · next control => exact behindBackslash (reads_controlEscape control)
  · next noQuote noBackslash _ _ _ _ _ noControl =>
    refine .peekChar ?_
    split
    · next absent => cases absent
    · next same => exact absurd (Option.some.inj same) noQuote
    · next same => exact absurd (Option.some.inj same) noBackslash
    · next same =>
      obtain rfl := Option.some.inj same
      refine .skipChar ?_
      rw [if_neg noControl]
      exact later

theorem reads_stringBody {fuel : Nat} {characters : List Char} (enough : characters.length < fuel)
    (read : List Char) :
    Reads (stringBody fuel read) (characters.flatMap escapedChar ++ ['"']) follow (characters.reverse ++ read) := by
  induction characters generalizing fuel read with
  | nil =>
    obtain ⟨fuel, rfl⟩ := Nat.exists_eq_add_one_of_ne_zero (Nat.ne_zero_of_lt enough)
    exact .peekChar (.skipChar (.pure _))
  | cons character rest ih =>
    obtain ⟨fuel, rfl⟩ := Nat.exists_eq_add_one_of_ne_zero (Nat.ne_zero_of_lt enough)
    have later := ih (Nat.lt_of_succ_lt_succ enough) (character :: read)
    rw [List.flatMap_cons, List.append_assoc, List.reverse_cons, List.append_assoc]
    exact reads_escapedChar later

theorem escapedChar_ne_nil (character : Char) : escapedChar character ≠ [] := by
  unfold escapedChar
  dsimp only
  split_ifs <;> exact List.cons_ne_nil _ _

theorem length_le_flatMap_escapedChar (characters : List Char) :
    characters.length ≤ (characters.flatMap escapedChar).length := by
  induction characters with
  | nil => exact Nat.le_refl _
  | cons character rest ih =>
    have written := List.length_pos_iff.mpr (escapedChar_ne_nil character)
    rw [List.flatMap_cons, List.length_append, List.length_cons]
    omega

theorem reads_string (text : String) :
    Reads string (text.toList.flatMap escapedChar ++ ['"']) follow text := by
  refine .look .remaining ?_
  have body : Reads (stringBody ((text.toList.flatMap escapedChar ++ ['"'] ++ follow).length + 1) [])
      (text.toList.flatMap escapedChar ++ ['"']) follow (text.toList.reverse ++ []) :=
    reads_stringBody
      (by have := length_le_flatMap_escapedChar text.toList; simp only [List.length_append]; omega) []
  exact body.last (by simpa using Reads.pure text)

/-- What can follow a value: the end, or a mark that no value goes on with. -/
def Closes (follow : List Char) : Prop :=
  ∀ character, follow.head? = some character → character = ',' ∨ character = ']' ∨ character = '\x7d'

theorem isDigit_of_mem_toDigits {value : Nat} {character : Char} (member : character ∈ Nat.toDigits 10 value) :
    isDigit character = true := by
  have digit := Nat.isDigit_of_mem_toDigits (by decide) (by decide) member
  simpa [isDigit, Char.isDigit, Char.le_def] using digit

/-- Only zero is written with a zero in front. -/
theorem exists_toDigits_eq_cons {value : Nat} (positive : 0 < value) :
    ∃ first rest, Nat.toDigits 10 value = first :: rest ∧ first ≠ '0' := by
  induction value using Nat.strongRecOn with
  | ind value ih =>
    rw [Nat.toDigits_eq_if (by decide)]
    split
    · next small =>
      refine ⟨_, _, rfl, ?_⟩
      have nonzero : ∀ digit < 10, 0 < digit → digit.digitChar ≠ '0' := by decide
      exact nonzero value small positive
    · next large =>
      obtain ⟨first, rest, digits, nonzero⟩ := ih (value / 10) (by omega) (by omega)
      exact ⟨first, rest ++ [(value % 10).digitChar], by rw [digits, List.cons_append], nonzero⟩

theorem le_ofDigitChars (start : Nat) (digits : List Char) : start ≤ Nat.ofDigitChars 10 digits start := by
  rw [Nat.ofDigitChars_eq_ofDigitChars_zero]
  have power : 0 < 10 ^ digits.length := Nat.pow_pos (by decide)
  have scaled := Nat.le_mul_of_pos_left start power
  omega

/-- Digits of a number that fits are all taken. -/
theorem takeSignificand_eq (start : Nat) {digits : List Char}
    (fits : Nat.ofDigitChars 10 digits start ≤ greatestNatural) :
    takeSignificand start digits = (Nat.ofDigitChars 10 digits start, digits.length, []) := by
  induction digits generalizing start with
  | nil => rfl
  | cons digit rest ih =>
    have next : 10 * start + (digit.toNat - '0'.toNat) = start * 10 + digitValue digit := by
      rw [digitValue, Nat.mul_comm]
    rw [Nat.ofDigitChars_cons, next] at fits ⊢
    have bound := le_ofDigitChars (start * 10 + digitValue digit) rest
    rw [takeSignificand]
    dsimp only
    rw [if_neg (by omega), ih _ fits, List.length_cons]

theorem Closes.not_isDigit {follow : List Char} (closes : Closes follow) {character : Char}
    (next : follow.head? = some character) : isDigit character = false := by
  rcases closes character next with rfl | rfl | rfl <;> rfl

/-- A number is read from its digits if the reader can finish it. -/
theorem reads_number {negative : Bool} {value : Nat} {numeral : Numeral} (closes : Closes follow)
    (fits : value ≤ greatestNatural) (finishes : Reads (finishNumber negative value) [] follow numeral) :
    Reads (number negative) (Nat.toDigits 10 value) follow numeral := by
  -- zero is one digit, behind which no other may stand, and every other number begins with another digit
  rcases Nat.eq_zero_or_pos value with rfl | positive
  · refine .peekChar ?_
    refine .skipChar ?_
    refine .look .peek ?_
    simp only [List.nil_append]
    split
    · next character next =>
      rw [closes.not_isDigit next]
      exact finishes
    · exact finishes
  · obtain ⟨first, rest, digits, nonzero⟩ := exists_toDigits_eq_cons positive
    have digit : isDigit first = true := isDigit_of_mem_toDigits (by rw [digits]; exact List.mem_cons_self)
    have taken : takeSignificand 0 (first :: rest) = (value, (first :: rest).length, []) := by
      rw [← digits, takeSignificand_eq 0 (by rwa [Nat.ofDigitChars_ten_toDigits]), Nat.ofDigitChars_ten_toDigits]
    have run : Reads (skipWhile isDigit) (first :: rest) follow (first :: rest) :=
      .skipWhile (fun character member => isDigit_of_mem_toDigits (digits ▸ member)) fun _ => closes.not_isDigit
    rw [digits]
    refine .peekChar ?_
    split
    · next absent => cases absent
    · next same => exact absurd (Option.some.inj same) nonzero
    · next same =>
      obtain rfl := Option.some.inj same
      rw [if_pos digit, ← List.append_nil (first :: rest)]
      refine run.bind ?_
      rw [taken]
      exact finishes

/-- No fraction and no exponent stands behind a number that something closes. -/
theorem reads_finishNumber (negative : Bool) {value : Nat} (closes : Closes follow)
    (signed : negative = true → 0 < value ∧ value ≤ Nat.pow 2 63) :
    Reads (finishNumber negative value) [] follow
      (.integer (if negative then -(value : Int) else value)) := by
  refine .look .peek ?_
  rw [List.nil_append]
  split
  · next point => rcases closes _ point with same | same | same <;> cases same
  · next mark => rcases closes _ mark with same | same | same <;> cases same
  · next mark => rcases closes _ mark with same | same | same <;> cases same
  · cases negative with
    | false => exact .pure _
    | true =>
      obtain ⟨positive, fits⟩ := signed rfl
      rw [if_neg (by decide), if_neg (by omega)]
      exact .pure _

/-- A reader of items reads a value from its text, whatever closes it. -/
structure ReadsItem (item : Reader Value) (value : Value) : Prop where
  starts : ∃ first rest, value.compact.toList = first :: rest ∧ isSpace first = false ∧ first ≠ ']'
  reads : ∀ {follow}, Closes follow → Reads item value.compact.toList follow value.ordered

theorem reads_firstItem {first : Char} {rest : List Char} (solid : isSpace first = false) (inside : first ≠ ']') :
    Reads (nextItem true) [] (first :: rest) true := by
  refine .look (.token solid) ?_
  split
  · next absent => cases absent
  · next same => exact absurd (Option.some.inj same) inside
  · exact .pure _

theorem reads_nextItem {first : Char} {rest : List Char} (solid : isSpace first = false) (inside : first ≠ ']') :
    Reads (nextItem false) [','] (first :: rest) true := by
  refine .peekTokenChar rfl ?_
  refine .skipChar ?_
  refine .look (.token solid) ?_
  split
  · next same => exact absurd (Option.some.inj same) inside
  · exact .pure _
  · next absent => cases absent

theorem reads_noItem (isFirst : Bool) : Reads (nextItem isFirst) [] (']' :: follow) false :=
  .look (.token rfl) (.pure _)

theorem reads_closeList : Reads closeList [']'] follow () :=
  .peekTokenChar rfl (.skip _)

theorem closes_flatMap {α : Type} {mark : Char} (text : α → List Char)
    (closing : mark = ']' ∨ mark = '\x7d') (others : List α) :
    Closes ((others.flatMap fun other => ',' :: text other) ++ mark :: follow) := by
  intro character next
  cases others with
  | nil => exact .inr (Option.some.inj next ▸ closing)
  | cons other rest => exact .inl (Option.some.inj next).symm

def moreItemsText (values : List Value) : List Char := values.flatMap fun value => ',' :: value.compact.toList

theorem closes_moreItems (values : List Value) : Closes (moreItemsText values ++ ']' :: follow) :=
  closes_flatMap _ (.inl rfl) values

theorem reads_moreItems {item : Reader Value} {values : List Value} (each : ∀ value ∈ values, ReadsItem item value)
    {fuel : Nat} (enough : values.length ≤ fuel) (latest : Value) (read : List Value) :
    Reads (items item fuel (latest :: read)) (moreItemsText values) (']' :: follow)
      ((latest :: read).reverse ++ values.map Value.ordered) := by
  induction values generalizing fuel latest read with
  | nil =>
    rw [List.map_nil, List.append_nil]
    cases fuel with
    | zero => exact .pure _
    | succ fuel => exact .look (reads_noItem _) (.pure _)
  | cons value rest ih =>
    obtain ⟨fuel, rfl⟩ := Nat.exists_eq_add_one_of_ne_zero (Nat.ne_zero_of_lt enough)
    obtain ⟨⟨first, others, text, solid, inside⟩, reads⟩ := each value List.mem_cons_self
    have comma : Reads (nextItem false) [','] (value.compact.toList ++ moreItemsText rest ++ ']' :: follow) true := by
      rw [text]
      exact reads_nextItem solid inside
    have later := ih (fun other member => each other (List.mem_cons_of_mem _ member))
      (Nat.le_of_succ_le_succ enough) value.ordered (latest :: read)
    rw [List.reverse_cons, List.append_assoc] at later
    exact comma.bind ((reads (closes_moreItems rest)).bind later)

/-- The items of a list are read behind its opening bracket. -/
theorem reads_items {item : Reader Value} {values : List Value} (each : ∀ value ∈ values, ReadsItem item value)
    {fuel : Nat} (enough : values.length < fuel) :
    Reads (items item fuel []) (Text.joinChars ',' (values.map fun value => value.compact.toList)) (']' :: follow)
      (values.map Value.ordered) := by
  obtain ⟨fuel, rfl⟩ := Nat.exists_eq_add_one_of_ne_zero (Nat.ne_zero_of_lt enough)
  cases values with
  | nil => exact .look (reads_noItem true) (.pure _)
  | cons value rest =>
    obtain ⟨⟨first, others, text, solid, inside⟩, reads⟩ := each value List.mem_cons_self
    have begins : Reads (nextItem true) [] (value.compact.toList ++ moreItemsText rest ++ ']' :: follow) true := by
      rw [text]
      exact reads_firstItem solid inside
    rw [List.map_cons, Text.joinChars_cons, List.flatMap_map]
    refine begins.look ((reads (closes_moreItems rest)).bind ?_)
    exact reads_moreItems (fun other member => each other (List.mem_cons_of_mem _ member))
      (Nat.le_of_lt_succ (Nat.lt_of_succ_lt enough)) value.ordered []

theorem toList_quoteString (text : String) :
    (quoteString text).toList = '"' :: (text.toList.flatMap escapedChar ++ ['"']) := by
  rw [quoteString, String.toList_ofList, List.cons_append]

theorem reads_firstKey (key : String) : Reads (nextKey true) (quoteString key).toList follow (some key) := by
  rw [toList_quoteString]
  exact .peekTokenChar rfl (.skipChar ((reads_string key).last (.pure _)))

theorem reads_nextKey (key : String) :
    Reads (nextKey false) (',' :: (quoteString key).toList) follow (some key) := by
  rw [toList_quoteString]
  refine .peekTokenChar rfl (.skipChar ?_)
  exact .peekTokenChar rfl (.skipChar ((reads_string key).last (.pure _)))

theorem reads_noKey (isFirst : Bool) : Reads (nextKey isFirst) [] ('\x7d' :: follow) none :=
  .look (.token rfl) (.pure _)

theorem reads_colon : Reads colon [':'] follow () :=
  .peekTokenChar rfl (.skip _)

theorem reads_closeObject : Reads closeObject ['\x7d'] follow () :=
  .peekTokenChar rfl (.skip _)

def fieldText (field : String × Value) : List Char := (quoteString field.1).toList ++ ':' :: field.2.compact.toList

def moreFieldsText (given : Fields) : List Char := given.flatMap fun field => ',' :: fieldText field

theorem closes_moreFields (given : Fields) : Closes (moreFieldsText given ++ '\x7d' :: follow) :=
  closes_flatMap _ (.inr rfl) given

/-- A field is put in its place behind its key, its colon and its value. -/
theorem reads_field {item : Reader Value} {field : String × Value} (reads : ReadsItem item field.2) {isFirst : Bool}
    {front : List Char} (named : ∀ {follow}, Reads (nextKey isFirst) front follow (some field.1)) {fuel : Nat}
    {read final : Fields} {more : List Char} (closes : Closes (more ++ follow))
    (later : Reads (fields item fuel false (Fields.insert field.1 field.2.ordered read)) more follow final) :
    Reads (fields item (fuel + 1) isFirst read) (front ++ (':' :: (field.2.compact.toList ++ more))) follow final :=
  named.bind (reads_colon.bind ((reads.reads closes).bind later))

theorem reads_moreFields {item : Reader Value} {given : Fields} (each : ∀ field ∈ given, ReadsItem item field.2)
    {fuel : Nat} (enough : given.length ≤ fuel) (read : Fields) :
    Reads (fields item fuel false read) (moreFieldsText given) ('\x7d' :: follow)
      ((Value.orderedFields given).foldl (fun sorted field => Fields.insert field.1 field.2 sorted) read) := by
  induction given generalizing fuel read with
  | nil =>
    cases fuel with
    | zero => exact .pure _
    | succ fuel => exact .look (reads_noKey _) (.pure _)
  | cons field rest ih =>
    obtain ⟨fuel, rfl⟩ := Nat.exists_eq_add_one_of_ne_zero (Nat.ne_zero_of_lt enough)
    have later := ih (fun other member => each other (List.mem_cons_of_mem _ member))
      (Nat.le_of_succ_le_succ enough) (Fields.insert field.1 field.2.ordered read)
    have step := reads_field (each field List.mem_cons_self) (reads_nextKey field.1) (closes_moreFields rest) later
    simpa [moreFieldsText, fieldText, Value.orderedFields] using step

/-- The fields of an object are read behind its opening brace, each into its place by key. -/
theorem reads_fields {item : Reader Value} {given : Fields} (each : ∀ field ∈ given, ReadsItem item field.2)
    {fuel : Nat} (enough : given.length < fuel) :
    Reads (fields item fuel true []) (Text.joinChars ',' (given.map fieldText)) ('\x7d' :: follow)
      (Fields.ordered (Value.orderedFields given)) := by
  obtain ⟨fuel, rfl⟩ := Nat.exists_eq_add_one_of_ne_zero (Nat.ne_zero_of_lt enough)
  cases given with
  | nil => exact .look (reads_noKey true) (.pure _)
  | cons field rest =>
    have later : Reads _ _ ('\x7d' :: follow) _ :=
      reads_moreFields (fun other member => each other (List.mem_cons_of_mem _ member))
        (Nat.le_of_lt_succ (Nat.lt_of_succ_lt enough)) (Fields.insert field.1 field.2.ordered [])
    have step := reads_field (each field List.mem_cons_self) (reads_firstKey field.1) (closes_moreFields rest) later
    rw [List.map_cons, Text.joinChars_cons, List.flatMap_map]
    simpa [moreFieldsText, fieldText, Fields.ordered, Value.orderedFields] using step

end Reader

namespace Value

/-- A value that its text tells: its numbers are integers of 64 bits, with a sign or without, and it nests no deeper
than some levels. -/
def Readable : Nat → Value → Prop
  | _, .null | _, .bool _ | _, .string _ => True
  | _, .number (.integer value) => -2 ^ 63 ≤ value ∧ value < 2 ^ 64
  | _, .number (.real _) => False
  | 0, .array _ | 0, .object _ => False
  | levels + 1, .array items => ∀ item ∈ items, item.Readable levels
  | levels + 1, .object fields => ∀ field ∈ fields, field.2.Readable levels

theorem toList_compact_array (items : List Value) : (Value.array items).compact.toList =
    '[' :: (Text.joinChars ',' (items.map fun item => item.compact.toList) ++ [']']) := by
  have texts : compactItems items = items.map compact := by
    induction items with
    | nil => rfl
    | cons item rest ih => rw [compactItems, ih, List.map_cons]
  have comma : (",": String) = String.singleton ',' := rfl
  rw [compact, texts, comma, String.toList_append, String.toList_append, Text.toList_intercalate, List.map_map]
  simp [Function.comp_def]

theorem toList_compact_object (fields : Fields) : (Value.object fields).compact.toList =
    '\x7b' :: (Text.joinChars ',' (fields.map Reader.fieldText) ++ ['\x7d']) := by
  have texts : compactFields fields = fields.map fun field => quoteString field.1 ++ ":" ++ field.2.compact := by
    induction fields with
    | nil => rfl
    | cons field rest ih => rw [compactFields, ih, List.map_cons]
  have written : (String.toList ∘ fun field : String × Value => quoteString field.1 ++ ":" ++ field.2.compact) =
      Reader.fieldText := by
    funext field
    simp [Reader.fieldText]
  have comma : (",": String) = String.singleton ',' := rfl
  rw [compact, texts, comma, String.toList_append, String.toList_append, Text.toList_intercalate, List.map_map, written]
  simp

end Value

namespace Reader

theorem reads_literal (name : List Char) {follow : List Char} : Reads (literal name) name follow () := by
  induction name with
  | nil => exact .pure _
  | cons expected others ih =>
    refine .peekChar ?_
    rw [if_pos rfl]
    exact .skipChar ih

theorem readsItem_null (levels : Nat) : ReadsItem (value (levels + 1)) .null where
  starts := ⟨'n', ['u', 'l', 'l'], rfl, rfl, by decide⟩
  reads _ := .peekTokenChar rfl (.skipChar ((reads_literal ['u', 'l', 'l']).last (.pure _)))

theorem readsItem_bool (levels : Nat) (given : Bool) : ReadsItem (value (levels + 1)) (.bool given) := by
  cases given with
  | false =>
    refine ⟨⟨'f', ['a', 'l', 's', 'e'], rfl, rfl, by decide⟩, fun _ => ?_⟩
    exact .peekTokenChar rfl (.skipChar ((reads_literal ['a', 'l', 's', 'e']).last (.pure _)))
  | true =>
    refine ⟨⟨'t', ['r', 'u', 'e'], rfl, rfl, by decide⟩, fun _ => ?_⟩
    exact .peekTokenChar rfl (.skipChar ((reads_literal ['r', 'u', 'e']).last (.pure _)))

theorem readsItem_string (levels : Nat) (text : String) : ReadsItem (value (levels + 1)) (.string text) where
  starts := ⟨'"', text.toList.flatMap escapedChar ++ ['"'], toList_quoteString text, rfl, by decide⟩
  reads _ := by
    rw [Value.compact, toList_quoteString]
    exact .peekTokenChar rfl (.skipChar ((reads_string text).last (.pure _)))

theorem exists_digit_cons (given : Nat) :
    ∃ first rest, Nat.toDigits 10 given = first :: rest ∧ isDigit first = true := by
  obtain ⟨first, rest, digits⟩ := List.exists_cons_of_ne_nil (Nat.toDigits_ne_nil (n := given) (b := 10))
  exact ⟨first, rest, digits, isDigit_of_mem_toDigits (by rw [digits]; exact List.mem_cons_self)⟩

theorem readsItem_natural (levels : Nat) {given : Nat} (fits : given ≤ greatestNatural) :
    ReadsItem (value (levels + 1)) (.natural given) := by
  have text : (Value.natural given).compact.toList = Nat.toDigits 10 given := by
    change (toString (given : Int)).toList = _
    rw [Int.toString_eq_repr, Int.repr_eq_if, if_pos (by omega), Int.toNat_natCast, Nat.repr_eq_ofList_toDigits,
      String.toList_ofList]
  obtain ⟨first, rest, digits, digit⟩ := exists_digit_cons given
  have other (character : Char) (noDigit : isDigit character = false) : first ≠ character := by
    rintro rfl
    exact Bool.false_ne_true (noDigit.symm.trans digit)
  have solid : isSpace first = false := by
    simp [isSpace, other ' ' rfl, other '\n' rfl, other '\t' rfl, other '\r' rfl]
  refine ⟨⟨first, rest, text.trans digits, solid, other ']' rfl⟩, fun {follow} closes => ?_⟩
  have read : Reads (number false) (Nat.toDigits 10 given) follow (.integer given) := by
    simpa using reads_number closes fits (reads_finishNumber false closes (by simp))
  rw [text]
  have token : Reads peekToken [] (Nat.toDigits 10 given ++ follow) (some first) := by
    rw [digits]
    exact .token solid
  refine token.look ?_
  split
  · next absent => cases absent
  · next same => exact absurd (Option.some.inj same) (other 'n' rfl)
  · next same => exact absurd (Option.some.inj same) (other 't' rfl)
  · next same => exact absurd (Option.some.inj same) (other 'f' rfl)
  · next same => exact absurd (Option.some.inj same) (other '-' rfl)
  · next same => exact absurd (Option.some.inj same) (other '"' rfl)
  · next same => exact absurd (Option.some.inj same) (other '[' rfl)
  · next same => exact absurd (Option.some.inj same) (other '\x7b' rfl)
  · next same =>
    obtain rfl := Option.some.inj same
    rw [if_pos digit]
    exact read.last (.pure _)

theorem readsItem_negative (levels : Nat) {given : Nat} (positive : 0 < given) (fits : given ≤ Nat.pow 2 63) :
    ReadsItem (value (levels + 1)) (.number (.integer (-given))) := by
  have text : (Value.number (.integer (-given))).compact.toList = '-' :: Nat.toDigits 10 given := by
    change (toString (-(given : Int))).toList = _
    rw [Int.toString_eq_repr, Int.repr_eq_if, if_neg (by omega), Int.neg_neg, Int.toNat_natCast,
      Nat.repr_eq_ofList_toDigits, String.toList_append, String.toList_ofList, String.toList_ofList,
      List.singleton_append]
  refine ⟨⟨'-', _, text, rfl, by decide⟩, fun {follow} closes => ?_⟩
  have small : given ≤ greatestNatural := Nat.le_trans fits (by decide)
  rw [text]
  refine .peekTokenChar rfl (.skipChar ?_)
  exact (reads_number closes small (reads_finishNumber true closes fun _ => ⟨positive, fits⟩)).last (.pure _)

theorem readsItem_integer (levels : Nat) {given : Int} (fits : -2 ^ 63 ≤ given ∧ given < 2 ^ 64) :
    ReadsItem (value (levels + 1)) (.number (.integer given)) := by
  have greatest : greatestNatural = 2 ^ 64 - 1 := rfl
  have half : Nat.pow 2 63 = 2 ^ 63 := rfl
  rcases Int.eq_nat_or_neg given with ⟨size, rfl | rfl⟩
  · exact readsItem_natural levels (by omega)
  · rcases Nat.eq_zero_or_pos size with rfl | positive
    · exact readsItem_natural levels (Nat.zero_le _)
    · exact readsItem_negative levels positive (by omega)

/-- What is written for the items of a list tells how many they are at least. -/
theorem length_le_joinChars {texts : List (List Char)} (written : ∀ text ∈ texts, text ≠ []) :
    texts.length ≤ (Text.joinChars ',' texts).length := by
  cases texts with
  | nil => exact Nat.zero_le _
  | cons text rest =>
    have begun := List.length_pos_iff.mpr (written text List.mem_cons_self)
    have one (others : List (List Char)) : others.length ≤ (others.flatMap fun other => ',' :: other).length := by
      induction others with
      | nil => exact Nat.le_refl _
      | cons other _ ih =>
        rw [List.flatMap_cons, List.length_append, List.length_cons, List.length_cons]
        omega
    have others := one rest
    rw [Text.joinChars_cons, List.length_append, List.length_cons]
    omega

theorem readsItem_array {levels : Nat} {values : List Value}
    (each : ∀ item ∈ values, ReadsItem (value (levels + 1)) item) :
    ReadsItem (value (levels + 2)) (.array values) where
  starts := ⟨'[', _, Value.toList_compact_array values, rfl, by decide⟩
  reads _ := by
    have written : ∀ text ∈ values.map fun item => item.compact.toList, text ≠ [] := by
      intro text member
      obtain ⟨item, inside, rfl⟩ := List.mem_map.mp member
      obtain ⟨first, rest, same, -⟩ := (each item inside).starts
      rw [same]
      exact List.cons_ne_nil _ _
    have count := length_le_joinChars written
    rw [List.length_map] at count
    rw [Value.toList_compact_array, Value.ordered, Value.orderedItems_eq]
    refine .peekTokenChar rfl (.skipChar (.look .remaining ?_))
    refine Reads.bind (reads_items each ?_) (reads_closeList.last (.pure _))
    simp only [List.length_append]
    omega

theorem readsItem_object {levels : Nat} {given : Fields}
    (each : ∀ field ∈ given, ReadsItem (value (levels + 1)) field.2) :
    ReadsItem (value (levels + 2)) (.object given) where
  starts := ⟨'\x7b', _, Value.toList_compact_object given, rfl, by decide⟩
  reads _ := by
    have written : ∀ text ∈ given.map fieldText, text ≠ [] := by
      intro text member
      obtain ⟨field, -, rfl⟩ := List.mem_map.mp member
      simp [fieldText]
    have count := length_le_joinChars written
    rw [List.length_map] at count
    rw [Value.toList_compact_object, Value.ordered]
    refine .peekTokenChar rfl (.skipChar (.look .remaining ?_))
    refine Reads.bind (reads_fields each ?_) (reads_closeObject.last (.pure _))
    simp only [List.length_append]
    omega

/-- A value that its text tells is read by whoever reads more levels than it nests. -/
theorem readsItem_value {levels : Nat} {given : Value} (readable : given.Readable levels) :
    ReadsItem (value (levels + 1)) given := by
  -- the reader's levels go down with the nesting of the value
  induction levels generalizing given with
  | zero =>
    cases given with
    | null => exact readsItem_null 0
    | bool given => exact readsItem_bool 0 given
    | string text => exact readsItem_string 0 text
    | number numeral =>
      cases numeral with
      | integer given => exact readsItem_integer 0 readable
      | real => exact readable.elim
    | array | object => exact readable.elim
  | succ levels ih =>
    cases given with
    | null => exact readsItem_null _
    | bool given => exact readsItem_bool _ given
    | string text => exact readsItem_string _ text
    | number numeral =>
      cases numeral with
      | integer given => exact readsItem_integer _ readable
      | real => exact readable.elim
    | array items => exact readsItem_array fun item member => ih (readable item member)
    | object fields => exact readsItem_object fun field member => ih (readable field member)

end Reader

/-- A value is read back from its text on one line, with the fields of every object ordered. -/
theorem Value.parse_compact {given : Value} (readable : given.Readable (nestingLimit - 1)) :
    Value.parse given.compact = .ok given.ordered := by
  have reads : Reads (Reader.value 128) given.compact.toList [] given.ordered :=
    (Reader.readsItem_value readable).reads (by intro character next; cases next)
  have ends : Reads Reader.finish [] [] () := .look (.peekToken (by simp)) (.pure ())
  have both : Reads (do let result ← Reader.value 128; Reader.finish; pure result) given.compact.toList []
      given.ordered := reads.last (ends.last (.pure _))
  obtain ⟨last, whole⟩ := both 0
  rw [List.append_nil] at whole
  exact congrArg (Except.map Prod.fst) whole

end RouteExplorer.Json
