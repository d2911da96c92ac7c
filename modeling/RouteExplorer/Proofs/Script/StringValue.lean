import RouteExplorer.Script.Literal
import RouteExplorer.Text.CodeRanges

namespace RouteExplorer.Script

def unitsOfCode (code : Nat) : List Nat :=
  if code < 0x10000 then [code] else [0xD800 + (code - 0x10000) / 0x400, 0xDC00 + (code - 0x10000) % 0x400]

def units (text : List Char) : List Nat := text.flatMap fun character => unitsOfCode character.toNat

theorem units_cons (character : Char) (rest : List Char) :
    units (character :: rest) = unitsOfCode character.toNat ++ units rest := List.flatMap_cons

theorem units_append (text rest : List Char) : units (text ++ rest) = units text ++ units rest := List.flatMap_append

theorem length_unitsOfCode (code : Nat) : 1 ≤ (unitsOfCode code).length ∧ (unitsOfCode code).length ≤ 2 := by
  unfold unitsOfCode
  split <;> simp

theorem length_le_length_units (text : List Char) : text.length ≤ (units text).length := by
  induction text with
  | nil => exact Nat.le_refl _
  | cons character rest ih =>
    have one := (length_unitsOfCode character.toNat).1
    rw [units_cons, List.length_append, List.length_cons]
    omega

/-- No character is a surrogate. -/
theorem toNat_not_surrogate (character : Char) :
    (character.toNat < 0xD800 ∨ 0xDFFF < character.toNat) ∧ character.toNat < 0x110000 := by
  have valid : character.toNat.isValidChar := character.valid
  unfold Nat.isValidChar at valid
  omega

theorem unitsOfCode_append_inj {first second : Char} {more others : List Nat}
    (same : unitsOfCode first.toNat ++ more = unitsOfCode second.toNat ++ others) :
    first = second ∧ more = others := by
  have first_valid := toNat_not_surrogate first
  have second_valid := toNat_not_surrogate second
  suffices equal : first.toNat = second.toNat ∧ more = others from ⟨Char.toNat_inj.mp equal.1, equal.2⟩
  unfold unitsOfCode at same
  split at same <;> split at same <;>
    simp only [List.cons_append, List.nil_append, List.cons.injEq] at same
  · exact same
  · omega
  · omega
  · obtain ⟨high, low, rest⟩ := same
    exact ⟨by omega, rest⟩

theorem units_injective {text other : List Char} (same : units text = units other) : text = other := by
  have filled (character : Char) (rest : List Char) : units (character :: rest) ≠ [] := by
    have longer := length_le_length_units (character :: rest)
    intro empty
    rw [empty] at longer
    exact absurd longer (by simp)
  induction text generalizing other with
  | nil =>
    cases other with
    | nil => rfl
    | cons character rest => exact absurd same.symm (filled character rest)
  | cons character rest ih =>
    cases other with
    | nil => exact absurd same (filled character rest)
    | cons second others =>
      rw [units_cons, units_cons] at same
      obtain ⟨rfl, behind⟩ := unitsOfCode_append_inj same
      rw [ih behind]

def IsQuote (quote : Char) : Prop := quote = '"' ∨ quote = '\''

/-- A character that stands for itself between quotes. -/
structure IsPlain (quote character : Char) : Prop where
  noQuote : character ≠ quote
  noBackslash : character ≠ '\\'
  noLineFeed : character ≠ '\n'
  noReturn : character ≠ '\r'

instance (quote character : Char) : Decidable (IsPlain quote character) :=
  decidable_of_iff (character ≠ quote ∧ character ≠ '\\' ∧ character ≠ '\n' ∧ character ≠ '\r')
    ⟨fun ⟨quote, backslash, feed, carriage⟩ => ⟨quote, backslash, feed, carriage⟩,
      fun plain => ⟨plain.noQuote, plain.noBackslash, plain.noLineFeed, plain.noReturn⟩⟩

def isHexDigit (character : Char) : Bool :=
  ('0' ≤ character && character ≤ '9') || ('a' ≤ character && character ≤ 'f') ||
    ('A' ≤ character && character ≤ 'F')

def lineEnds : List (List Char) := [['\n'], ['\r'], ['\r', '\n'], ['\u2028'], ['\u2029']]

/-- The unit that a letter behind a backslash denotes. -/
def singleEscape? : Char → Option Nat
  | '\'' => some 0x27
  | '"' => some 0x22
  | '\\' => some 0x5C
  | 'b' => some 0x08
  | 'f' => some 0x0C
  | 'n' => some 0x0A
  | 'r' => some 0x0D
  | 't' => some 0x09
  | 'v' => some 0x0B
  | _ => none

/-- A character that denotes itself behind a backslash. -/
def denotesItself (character : Char) : Bool :=
  (singleEscape? character).isNone && !character.isDigit && character != 'x' && character != 'u' &&
    !lineEnds.contains [character]

/-- What can stand behind a backslash in strict code, and the units that it denotes. -/
inductive Escape : List Char → List Nat → Prop
  | lineEnd {text : List Char} (ends : text ∈ lineEnds) : Escape text []
  | single {letter : Char} {unit : Nat} (stands : singleEscape? letter = some unit) : Escape [letter] [unit]
  | itself {character : Char} (stands : denotesItself character = true) :
      Escape [character] (unitsOfCode character.toNat)
  | zero : Escape ['0'] [0]
  | twoDigits {digits : List Char} (two : digits.length = 2) (hex : digits.all isHexDigit = true) :
      Escape ('x' :: digits) [Text.readHex digits]
  | fourDigits {digits : List Char} (four : digits.length = 4) (hex : digits.all isHexDigit = true) :
      Escape ('u' :: digits) [Text.readHex digits]
  | codePoint {digits : List Char} (filled : digits ≠ []) (hex : digits.all isHexDigit = true)
      (inRange : Text.readHex digits ≤ 0x10FFFF) :
      Escape ('u' :: '\x7b' :: (digits ++ ['\x7d'])) (unitsOfCode (Text.readHex digits))

/-- What stands behind an escape does not belong to it: no digit follows a zero, no line feed a carriage return. -/
def Apart (escape rest : List Char) : Prop :=
  ∀ next, rest.head? = some next →
    (escape = ['0'] → next.isDigit = false) ∧ (escape = ['\r'] → next ≠ '\n')

/-- What stands between the quotes of a literal, and the units that it denotes. -/
inductive Denotes (quote : Char) : List Char → List Nat → Prop
  | nil : Denotes quote [] []
  | plain {character : Char} {rest : List Char} {more : List Nat} (stands : IsPlain quote character)
      (later : Denotes quote rest more) : Denotes quote (character :: rest) (unitsOfCode character.toNat ++ more)
  | escaped {escape rest : List Char} {denoted more : List Nat} (stands : Escape escape denoted)
      (apart : Apart escape rest) (later : Denotes quote rest more) :
      Denotes quote ('\\' :: (escape ++ rest)) (denoted ++ more)

/-- The units of an escape that a text begins with, and what stands behind it. -/
def readEscape : List Char → List Nat × List Char
  | '\r' :: '\n' :: rest => ([], rest)
  | 'x' :: first :: second :: rest => ([Text.readHex [first, second]], rest)
  | 'u' :: '\x7b' :: rest =>
    (unitsOfCode (Text.readHex (rest.takeWhile isHexDigit)), (rest.dropWhile isHexDigit).tail)
  | 'u' :: first :: second :: third :: fourth :: rest => ([Text.readHex [first, second, third, fourth]], rest)
  | '0' :: rest => ([0], rest)
  | character :: rest =>
    if [character] ∈ lineEnds then ([], rest)
    else ((singleEscape? character).elim (unitsOfCode character.toNat) ([·]), rest)
  | [] => ([], [])

theorem readEscape_single {character : Char} (other : character ∉ ['\r', 'x', 'u', '0']) (rest : List Char) :
    readEscape (character :: rest) =
      if [character] ∈ lineEnds then ([], rest)
      else ((singleEscape? character).elim (unitsOfCode character.toNat) ([·]), rest) := by
  simp only [List.mem_cons, List.not_mem_nil, or_false, not_or] at other
  obtain ⟨noReturn, noX, noU, noZero⟩ := other
  unfold readEscape
  split <;> simp_all

/-- An escape is told from what stands behind it. -/
theorem readEscape_eq {escape rest : List Char} {denoted : List Nat} (stands : Escape escape denoted)
    (apart : Apart escape rest) : readEscape (escape ++ rest) = (denoted, rest) := by
  cases stands with
  | lineEnd ends =>
    simp only [lineEnds, List.mem_cons, List.not_mem_nil, or_false] at ends
    rcases ends with rfl | rfl | rfl | rfl | rfl
    · rfl
    · cases rest with
      | nil => rfl
      | cons next others =>
        have noFeed : next ≠ '\n' := (apart next rfl).2 rfl
        simp [readEscape, noFeed, lineEnds]
    · rfl
    · rfl
    · rfl
  | @single letter unit stands =>
    have other : letter ∉ ['\r', 'x', 'u', '0'] ∧ [letter] ∉ lineEnds := by
      constructor
      · intro member
        simp only [List.mem_cons, List.not_mem_nil, or_false] at member
        rcases member with rfl | rfl | rfl | rfl <;> cases stands
      · intro member
        simp only [lineEnds, List.mem_cons, List.cons.injEq, and_true, List.ne_cons_self, and_false, List.not_mem_nil,
          or_false, false_or] at member
        rcases member with rfl | rfl | rfl | rfl <;> cases stands
    rw [List.singleton_append, readEscape_single other.1, if_neg other.2, stands]
    rfl
  | @itself character stands =>
    simp only [denotesItself, Bool.and_eq_true, Bool.not_eq_true', List.contains_eq_mem, decide_eq_false_iff_not,
      Option.isNone_iff_eq_none, bne_iff_ne] at stands
    obtain ⟨⟨⟨⟨noLetter, noDigit⟩, noX⟩, noU⟩, noEnd⟩ := stands
    have other : character ∉ ['\r', 'x', 'u', '0'] := by
      intro member
      simp only [List.mem_cons, List.not_mem_nil, or_false] at member
      rcases member with rfl | rfl | rfl | rfl
      · exact noEnd (by simp [lineEnds])
      · exact noX rfl
      · exact noU rfl
      · cases noDigit
    rw [List.singleton_append, readEscape_single other, if_neg noEnd, noLetter]
    rfl
  | zero => rfl
  | @twoDigits digits two hex =>
    match digits, two with
    | [first, second], _ => rfl
  | @fourDigits digits four hex =>
    match digits, four, hex with
    | [first, second, third, fourth], _, hex =>
      have noBrace : first ≠ '\x7b' := by
        rintro rfl
        cases hex
      simp [readEscape]
  | @codePoint digits filled hex inRange =>
    have text : 'u' :: '\x7b' :: (digits ++ ['\x7d']) ++ rest = 'u' :: '\x7b' :: (digits ++ '\x7d' :: rest) := by simp
    have digit := List.all_eq_true.mp hex
    rw [text, readEscape, List.takeWhile_append_of_pos digit, List.dropWhile_append_of_pos digit]
    simp [isHexDigit]

/-- An escape denotes no more units than it has characters. -/
theorem Escape.length_le {escape : List Char} {denoted : List Nat} (stands : Escape escape denoted) :
    denoted.length ≤ (units escape).length := by
  cases stands with
  | lineEnd => exact Nat.zero_le _
  | single => exact length_le_length_units [_]
  | itself => exact Nat.le_of_eq (by simp [units])
  | zero => exact length_le_length_units [_]
  | twoDigits | fourDigits =>
    refine Nat.le_trans ?_ (length_le_length_units _)
    simp
  | codePoint =>
    refine Nat.le_trans (length_unitsOfCode _).2 (Nat.le_trans ?_ (length_le_length_units _))
    simp

variable {quote : Char} {body : List Char} {value : List Nat}

/-- What stands between the quotes of a literal denotes one value. -/
theorem Denotes.unique {other : List Nat} (denotes : Denotes quote body value) (also : Denotes quote body other) :
    value = other := by
  induction denotes generalizing other with
  | nil =>
    cases also
    rfl
  | plain plain later ih =>
    cases also with
    | plain _ later => rw [ih later]
    | escaped => exact absurd rfl plain.noBackslash
  | escaped stands apart later ih =>
    generalize whole : '\\' :: _ = text at also
    cases also with
    | nil => cases whole
    | plain plain _ => exact absurd (List.cons.inj whole).1.symm plain.noBackslash
    | escaped also_stands also_apart also_later =>
      -- both escapes are read off the same text, so that what is behind them is the same too
      have same := (readEscape_eq stands apart).symm.trans
        ((congrArg readEscape (List.cons.inj whole).2).trans (readEscape_eq also_stands also_apart))
      obtain ⟨rfl, rfl⟩ := Prod.mk.inj same
      rw [ih also_later]

/-- Without an escape a literal denotes what stands in it, and with one it denotes fewer units. -/
theorem Denotes.eq_or_shorter (denotes : Denotes quote body value) :
    '\\' ∉ body ∧ value = units body ∨ '\\' ∈ body ∧ value.length < (units body).length := by
  induction denotes with
  | nil => exact .inl ⟨List.not_mem_nil, rfl⟩
  | plain stands later ih =>
    rcases ih with ⟨absent, same⟩ | ⟨present, shorter⟩
    · refine .inl ⟨List.not_mem_cons_of_ne_of_not_mem stands.noBackslash.symm absent, ?_⟩
      rw [units_cons, same]
    · refine .inr ⟨List.mem_cons_of_mem _ present, ?_⟩
      rw [units_cons, List.length_append, List.length_append]
      omega
  | escaped stands apart later ih =>
    refine .inr ⟨List.mem_cons_self, ?_⟩
    have first := stands.length_le
    have mark := (length_unitsOfCode '\\'.toNat).1
    rw [units_cons, units_append, List.length_append, List.length_append, List.length_append]
    rcases ih with ⟨-, rfl⟩ | ⟨-, shorter⟩ <;> omega

/-- A literal denotes what stands between its quotes exactly if nothing in it is escaped. -/
theorem Denotes.units_eq_iff (denotes : Denotes quote body value) : units body = value ↔ '\\' ∉ body := by
  rcases denotes.eq_or_shorter with ⟨absent, same⟩ | ⟨present, shorter⟩
  · exact iff_of_true same.symm absent
  · refine iff_of_false (fun same => ?_) (not_not_intro present)
    rw [same] at shorter
    exact Nat.lt_irrefl _ shorter

namespace Source

/-- The text of a script goes on with some characters from an offset on. -/
def StandsAt (source : Source) (offset : Nat) (text : List Char) : Prop :=
  text <+: source.characters.toList.drop offset

variable {source : Source} {offset : Nat}

theorem StandsAt.cons {character : Char} {rest : List Char} (stands : source.StandsAt offset (character :: rest)) :
    source.characters[offset]? = some character ∧ source.StandsAt (offset + 1) rest := by
  obtain ⟨behind, splits⟩ := stands
  constructor
  · rw [← Array.getElem?_toList, ← List.head?_drop, ← splits]
    rfl
  · refine ⟨behind, ?_⟩
    rw [← List.tail_drop, ← splits]
    rfl

theorem StandsAt.slice_eq {text : List Char} (stands : source.StandsAt offset text) :
    source.slice offset (offset + text.length) = text := by
  obtain ⟨behind, splits⟩ := stands
  rw [slice, Array.toList_extract, List.extract_eq_take_drop, Nat.add_sub_cancel_left, ← splits, List.take_left]

theorem quotedEnd?_plain {quote character : Char} {rest : List Char} (plain : IsPlain quote character)
    (stands : source.StandsAt offset (character :: rest)) (steps : Nat) :
    source.quotedEnd? quote (steps + 1) offset = source.quotedEnd? quote steps (offset + 1) := by
  rw [quotedEnd?, stands.cons.1]
  simp [plain.noQuote, plain.noBackslash, plain.noLineFeed, plain.noReturn]

theorem quotedEnd?_run {quote : Char} {run rest : List Char} (plain : ∀ character ∈ run, IsPlain quote character)
    (stands : source.StandsAt offset (run ++ rest)) (steps : Nat) :
    source.StandsAt (offset + run.length) rest ∧
      source.quotedEnd? quote (steps + run.length) offset = source.quotedEnd? quote steps (offset + run.length) := by
  induction run generalizing offset with
  | nil => exact ⟨stands, rfl⟩
  | cons character others ih =>
    obtain ⟨behind, passes⟩ := ih (fun other member => plain other (List.mem_cons_of_mem _ member)) stands.cons.2
    have length : offset + (character :: others).length = offset + 1 + others.length := by
      rw [List.length_cons]
      omega
    rw [length]
    exact ⟨behind, (quotedEnd?_plain (plain character List.mem_cons_self) stands _).trans passes⟩

end Source

theorem isPlain_of_isHexDigit (isQuote : IsQuote quote) {character : Char} (digit : isHexDigit character = true) :
    IsPlain quote character := by
  have other (mark : Char) (noDigit : isHexDigit mark = false) : character ≠ mark := by
    rintro rfl
    exact Bool.false_ne_true (noDigit.symm.trans digit)
  refine ⟨?_, other '\\' rfl, other '\n' rfl, other '\r' rfl⟩
  rcases isQuote with rfl | rfl
  · exact other '"' rfl
  · exact other '\'' rfl

/-- An escape is the end of a line of two characters, or a character with plain ones behind it. -/
theorem Escape.shape (isQuote : IsQuote quote) {escape : List Char} {denoted : List Nat}
    (stands : Escape escape denoted) : escape = ['\r', '\n'] ∨
      ∃ first run, escape = first :: run ∧ (∀ character ∈ run, IsPlain quote character) ∧
        (first = '\r' → run = []) := by
  have plain {digits : List Char} (hex : digits.all isHexDigit = true) :
      ∀ character ∈ digits, IsPlain quote character :=
    fun character member => isPlain_of_isHexDigit isQuote (List.all_eq_true.mp hex character member)
  have single (character : Char) : ∃ first run, [character] = first :: run ∧
      (∀ other ∈ run, IsPlain quote other) ∧ (first = '\r' → run = []) :=
    ⟨character, [], rfl, by simp, fun _ => rfl⟩
  cases stands with
  | lineEnd ends =>
    simp only [lineEnds, List.mem_cons, List.not_mem_nil, or_false] at ends
    rcases ends with rfl | rfl | rfl | rfl | rfl
    · exact .inr (single _)
    · exact .inr (single _)
    · exact .inl rfl
    · exact .inr (single _)
    · exact .inr (single _)
  | single | itself | zero => exact .inr (single _)
  | twoDigits _ hex => exact .inr ⟨_, _, rfl, plain hex, fun same => absurd same (by decide)⟩
  | fourDigits _ hex => exact .inr ⟨_, _, rfl, plain hex, fun same => absurd same (by decide)⟩
  | codePoint _ hex =>
    have brace (mark : Char) (either : mark = '\x7b' ∨ mark = '\x7d') : IsPlain quote mark := by
      rcases isQuote with rfl | rfl <;> rcases either with rfl | rfl <;> constructor <;> decide
    refine .inr ⟨_, _, rfl, ?_, fun same => absurd same (by decide)⟩
    simp only [List.mem_cons, List.mem_append, List.not_mem_nil, or_false]
    rintro character (opens | digit | closes)
    · exact brace _ (.inl opens)
    · exact plain hex character digit
    · exact brace _ (.inr closes)

/-- An escape that is no end of a line of two characters is not read as one. -/
theorem Apart.not_lineEnd (isQuote : IsQuote quote) {source : Source} {offset : Nat} {first : Char}
    {run rest : List Char} (apart : Apart (first :: run) rest) (alone : first = '\r' → run = [])
    (stands : source.StandsAt offset (first :: run ++ (rest ++ [quote]))) :
    ¬(source.characters[offset]? = some '\r' ∧ source.characters[offset + 1]? = some '\n') := by
  obtain ⟨starts, behind⟩ := stands.cons
  rintro ⟨carriage, feed⟩
  obtain rfl := Option.some.inj (starts.symm.trans carriage)
  obtain rfl := alone rfl
  cases rest with
  | nil =>
    obtain rfl := Option.some.inj (behind.cons.1.symm.trans feed)
    rcases isQuote with same | same <;> cases same
  | cons next others =>
    obtain rfl := Option.some.inj (behind.cons.1.symm.trans feed)
    exact (apart _ rfl).2 rfl rfl

/-- A literal that stands in a text ends behind its closing quote. -/
theorem Denotes.quotedEnd? (denotes : Denotes quote body value) (isQuote : IsQuote quote) {source : Source}
    {offset steps : Nat} (stands : source.StandsAt offset (body ++ [quote])) (enough : body.length < steps) :
    source.quotedEnd? quote steps offset = some (offset + body.length + 1) := by
  induction denotes generalizing offset steps with
  | nil =>
    obtain ⟨steps, rfl⟩ := Nat.exists_eq_add_one_of_ne_zero (Nat.ne_zero_of_lt enough)
    rw [Source.quotedEnd?, stands.cons.1]
    simp
  | plain plain later ih =>
    obtain ⟨steps, rfl⟩ := Nat.exists_eq_add_one_of_ne_zero (Nat.ne_zero_of_lt enough)
    rw [Source.quotedEnd?_plain plain stands, ih stands.cons.2 (Nat.lt_of_succ_lt_succ enough), List.length_cons]
    congr 1
    omega
  | @escaped escape rest _ _ denotes apart later ih =>
    obtain ⟨steps, rfl⟩ := Nat.exists_eq_add_one_of_ne_zero (Nat.ne_zero_of_lt enough)
    rw [List.cons_append, List.append_assoc] at stands
    obtain ⟨backslash, behind⟩ := stands.cons
    have noQuote : '\\' ≠ quote := by rcases isQuote with rfl | rfl <;> decide
    rw [List.length_cons, List.length_append] at enough
    rw [Source.quotedEnd?, backslash, List.length_cons, List.length_append]
    simp only [if_neg noQuote, ↓reduceIte]
    -- behind a backslash one character is skipped, or the two that end a line; the rest of an escape is plain
    rcases denotes.shape isQuote with rfl | ⟨first, run, rfl, plain, alone⟩
    · obtain ⟨carriage, behind⟩ := behind.cons
      obtain ⟨feed, behind⟩ := behind.cons
      rw [if_pos ⟨carriage, feed⟩, ih behind (by simp at enough; omega)]
      simp
      omega
    · rw [if_neg (apart.not_lineEnd isQuote alone behind)]
      obtain ⟨-, behind⟩ := behind.cons
      obtain ⟨left, rfl⟩ := Nat.exists_eq_add_of_le' (show run.length ≤ steps by simp at enough; omega)
      obtain ⟨behind, passes⟩ := Source.quotedEnd?_run plain behind left
      rw [passes, ih behind (by simp at enough; omega)]
      simp
      omega

theorem Parser.bind_eq {α β : Type} {parser : Parser α} {next : α → Parser β} {source : Source}
    {offset later : Nat} {result : α} (reads : parser source offset = some (result, later)) :
    (parser >>= next) source offset = next result source later := by
  change Option.bind (parser source offset) _ = _
  rw [reads]
  rfl

/-- A literal that stands before the next token is read as one string, from quote to quote. -/
theorem Denotes.stringLiteral (denotes : Denotes quote body value) (isQuote : IsQuote quote) {source : Source}
    {offset : Nat} (stands : source.StandsAt (source.gapAt offset).stop (quote :: body ++ [quote])) :
    Parser.stringLiteral source offset = some
      (.leaf .string (source.gapAt offset).stop ((source.gapAt offset).stop + (body.length + 2)),
        (source.gapAt offset).stop + (body.length + 2)) := by
  obtain ⟨opens, behind⟩ := stands.cons
  have enough : body.length < source.characters.size := by
    have inside := stands.length_le
    simp at inside
    omega
  have ends : source.quotedEnd? quote source.characters.size ((source.gapAt offset).stop + 1) =
      some ((source.gapAt offset).stop + (body.length + 2)) := by
    rw [denotes.quotedEnd? isQuote behind enough]
    congr 1
    omega
  have start : Parser.tokenStart source offset = some ((source.gapAt offset).stop, offset) := rfl
  have first : Parser.charAt (source.gapAt offset).stop source offset = some (some quote, offset) := by
    rw [Parser.charAt, opens]
  have quoted : (quote != '"' && quote != '\'') = false := by rcases isQuote with rfl | rfl <;> rfl
  rw [Parser.stringLiteral, Parser.bind_eq start, Parser.bind_eq first]
  simp only [quoted, Bool.false_eq_true, if_false]
  rw [Parser.bind_eq (by rw [ends]; rfl)]
  rfl

end RouteExplorer.Script
