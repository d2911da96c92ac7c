import RouteExplorer.Json.Fault
import RouteExplorer.Json.Value
import RouteExplorer.Number.Shortest
import RouteExplorer.Text.CodeRanges
import RouteExplorer.Text.Quoted

/-!
Reading JSON text. A reader consumes characters from a cursor that counts bytes, so that a fault
knows its position; nesting is bounded, and every loop is bounded by the characters that remain.
-/
namespace RouteExplorer.Json

open Number (Binary64)

structure Cursor where
  rest : List Char
  offset : Nat

abbrev Reader := StateT Cursor (Except Fault)

/-- The deepest nesting that is refused: containers nest at most one level less. -/
def nestingLimit : Nat := 128

namespace Reader

/-- Stop here: the fault lies at the last byte read. -/
def stop {α : Type} (reason : Reason) : Reader α := fun cursor =>
  .error ⟨reason, cursor.offset⟩

/-- Stop at the next byte, which counts as read unless the text ends. -/
def stopAhead {α : Type} (reason : Reason) : Reader α := fun cursor =>
  .error ⟨reason, if cursor.rest.isEmpty then cursor.offset else cursor.offset + 1⟩

def peek : Reader (Option Char) := fun cursor => .ok (cursor.rest.head?, cursor)

def skip : Reader Unit := fun cursor =>
  match cursor.rest with
  | [] => .ok ((), cursor)
  | character :: rest => .ok ((), ⟨rest, cursor.offset + character.utf8Size⟩)

def remaining : Reader Nat := fun cursor => .ok (cursor.rest.length, cursor)

/-- Stop after one byte of the next character, or at the end of the text. -/
def stopInside {α : Type} (atEnd : Reason) (reason : Reason) : Reader α := fun cursor =>
  if cursor.rest.isEmpty then .error ⟨atEnd, cursor.offset⟩ else .error ⟨reason, cursor.offset + 1⟩

def isSpace (character : Char) : Bool :=
  character == ' ' || character == '\n' || character == '\t' || character == '\r'

def skipWhile (accepts : Char → Bool) : Reader (List Char) := fun cursor =>
  let taken := cursor.rest.takeWhile accepts
  .ok (taken, ⟨cursor.rest.dropWhile accepts,
    cursor.offset + (taken.map Char.utf8Size).foldr (· + ·) 0⟩)

def peekToken : Reader (Option Char) := do
  let _ ← skipWhile isSpace
  peek

def literal : List Char → Reader Unit
  | [] => pure ()
  | expected :: others => do
    if (← peek) = some expected then
      skip
      literal others
    else stopInside .endInValue .expectedIdent

def hexUnit? (digits : List Char) : Option Nat :=
  let isHex (character : Char) : Bool :=
    ('0' ≤ character && character ≤ '9') || ('a' ≤ character && character ≤ 'f') ||
      ('A' ≤ character && character ≤ 'F')
  if digits.length = 4 ∧ digits.all isHex then some (Text.readHex digits) else none

def hexEscape : Reader Nat := fun cursor =>
  match hexUnit? (cursor.rest.take 4) with
  | some value => .ok (value, ⟨cursor.rest.drop 4, cursor.offset + 4⟩)
  | none =>
    let bytes := (cursor.rest.map Char.utf8Size).foldr (· + ·) 0
    if bytes < 4 then .error ⟨.endInString, cursor.offset + bytes⟩
    else .error ⟨.invalidEscape, cursor.offset + 4⟩

/-- Read what follows `\u`: one unit, or a pair of surrogates. -/
def unicodeEscape : Reader Char := do
  let first ← hexEscape
  if 0xDC00 ≤ first ∧ first ≤ 0xDFFF then stop .loneSurrogate
  else if 0xD800 ≤ first ∧ first ≤ 0xDBFF then
    match ← peek with
    | none => stop .endInString
    | some '\\' =>
      skip
      match ← peek with
      | none => stop .endInString
      | some 'u' =>
        skip
        let second ← hexEscape
        if 0xDC00 ≤ second ∧ second ≤ 0xDFFF then
          pure (Char.ofNat ((first - 0xD800) * 0x400 + (second - 0xDC00) + 0x10000))
        else stop .loneSurrogate
      | some _ => stopInside .endInString .surrogateCutShort
    | some _ => stopInside .endInString .surrogateCutShort
  else pure (Char.ofNat first)

def simpleEscape? : Char → Option Char
  | '"' => some '"'
  | '\\' => some '\\'
  | '/' => some '/'
  | 'b' => some '\x08'
  | 'f' => some '\x0c'
  | 'n' => some '\n'
  | 'r' => some '\r'
  | 't' => some '\t'
  | _ => none

def escape : Reader Char := do
  match ← peek with
  | some 'u' =>
    skip
    unicodeEscape
  | some letter =>
    match simpleEscape? letter with
    | some character =>
      skip
      pure character
    | none => stopInside .endInString .invalidEscape
  | none => stop .endInString

/-- Read the rest of a string after its opening quote; the characters come back reversed. -/
def stringBody : Nat → List Char → Reader (List Char)
  | 0, _ => stop .endInString
  | fuel + 1, read => do
    match ← peek with
    | none => stop .endInString
    | some '"' =>
      skip
      pure read
    | some '\\' =>
      skip
      let character ← escape
      stringBody fuel (character :: read)
    | some character =>
      skip
      if character.toNat < 0x20 then stop .controlInString
      else stringBody fuel (character :: read)

def string : Reader String := do
  let read ← stringBody ((← remaining) + 1) []
  pure (String.ofList read.reverse)

def isDigit (character : Char) : Bool := '0' ≤ character && character ≤ '9'

def digitValue (character : Char) : Nat := character.toNat - '0'.toNat

/-- The largest integer that is read without rounding. -/
def greatestNatural : Nat := Nat.pow 2 64 - 1

/-- Take digits into a significand of 64 bits: the significand, the number of digits taken and the
digits that did not fit. -/
def takeSignificand (significand : Nat) : List Char → Nat × Nat × List Char
  | [] => (significand, 0, [])
  | digit :: rest =>
    let next := significand * 10 + digitValue digit
    if greatestNatural < next then (significand, 0, digit :: rest)
    else
      let (value, count, left) := takeSignificand next rest
      (value, count + 1, left)

/-- A power of ten up to 308, rounded. -/
private def powerOfTen (exponent : Nat) : Binary64 :=
  (Binary64.ofNat? (Nat.pow 10 exponent)).getD (Binary64.zero false)

/-- Scale a non-negative number by a power of ten, at most 308 places a step; none when the result
is not finite. -/
private def scaleByTen? : Nat → Binary64 → Int → Option Binary64
  | 0, value, _ => some value
  | fuel + 1, value, exponent =>
    if exponent.natAbs ≤ 308 then
      if 0 ≤ exponent then value.multiply? (powerOfTen exponent.natAbs)
      else value.divide? (powerOfTen exponent.natAbs)
    else if value.isZero then some value
    else if 0 ≤ exponent then none
    else match value.divide? (powerOfTen 308) with
      | some smaller => scaleByTen? fuel smaller (exponent + 308)
      | none => none

/-- The number `significand * 10 ^ exponent`. The significand is rounded before it is scaled. -/
def realOfParts (negative : Bool) (significand : Nat) (exponent : Int) : Reader Numeral :=
  let start := (Binary64.ofNat? significand).getD (Binary64.zero false)
  match scaleByTen? (exponent.natAbs / 308 + 2) start exponent with
  | some value => pure (.real (if negative then value.negate else value))
  | none => stop .numberOutOfRange

private def greatestExponent : Nat := Nat.pow 2 31 - 1

/-- Read the digits of an exponent; none when they exceed the greatest one. -/
private def exponentDigits (value : Nat) : Nat → Reader (Option Nat)
  | 0 => pure (some value)
  | fuel + 1 => do
    match ← peek with
    | some character =>
      if isDigit character then
        skip
        let next := value * 10 + digitValue character
        if greatestExponent < next then pure none else exponentDigits next fuel
      else pure (some value)
    | none => pure (some value)

def exponentPart (negative : Bool) (significand : Nat) (before : Int) : Reader Numeral := do
  skip
  let upward ← match ← peek with
    | some '+' => do
      skip
      pure true
    | some '-' => do
      skip
      pure false
    | _ => pure true
  match ← peek with
  | none => stop .endInValue
  | some first =>
    if isDigit first then
      skip
      match ← exponentDigits (digitValue first) (← remaining) with
      | some exponent =>
        realOfParts negative significand (if upward then before + exponent else before - exponent)
      | none =>
        if significand ≠ 0 ∧ upward then stop .numberOutOfRange
        else
          let _ ← skipWhile isDigit
          pure (.real (Binary64.zero negative))
    else stopInside .endInValue .invalidNumber

private def finishReal (negative : Bool) (significand : Nat) (exponent : Int) : Reader Numeral := do
  match ← peek with
  | some 'e' | some 'E' => exponentPart negative significand exponent
  | _ => realOfParts negative significand exponent

def fractionPart (negative : Bool) (significand : Nat) (before : Int) : Reader Numeral := do
  skip
  let digits ← skipWhile isDigit
  let (value, count, _) := takeSignificand significand digits
  if digits.isEmpty then
    match ← peek with
    | some _ => stopAhead .invalidNumber
    | none => stopAhead .endInValue
  else finishReal negative value (before - count)

/-- Finish an integer whose digits are read: a fraction or an exponent makes it real. -/
def finishNumber (negative : Bool) (significand : Nat) : Reader Numeral := do
  match ← peek with
  | some '.' => fractionPart negative significand 0
  | some 'e' | some 'E' => exponentPart negative significand 0
  | _ =>
    if !negative then pure (.integer significand)
    else if significand = 0 ∨ Nat.pow 2 63 < significand then
      pure (.real ((Binary64.ofNat? significand).getD (Binary64.zero false)).negate)
    else pure (.integer (-(significand : Int)))

def number (negative : Bool) : Reader Numeral := do
  match ← peek with
  | none => stop .endInValue
  | some '0' =>
    skip
    match ← peek with
    | some next => if isDigit next then stopAhead .invalidNumber else finishNumber negative 0
    | none => finishNumber negative 0
  | some first =>
    if isDigit first then
      let digits ← skipWhile isDigit
      match takeSignificand 0 digits with
      | (significand, _, []) => finishNumber negative significand
      | (significand, _, left) =>
        match ← peek with
        | some '.' => fractionPart negative significand left.length
        | some 'e' | some 'E' => exponentPart negative significand left.length
        | _ => realOfParts negative significand left.length
    else stopInside .endInValue .invalidNumber

/-- Whether another item follows, before the item or its comma is read. -/
def nextItem (isFirst : Bool) : Reader Bool := do
  match ← peekToken with
  | none => stopAhead .endInList
  | some ']' => pure false
  | some character =>
    if isFirst then pure true
    else if character = ',' then
      skip
      match ← peekToken with
      | some ']' => stopAhead .trailingComma
      | some _ => pure true
      | none => stopAhead .endInValue
    else stopAhead .expectedCommaOrBracket

def nextKey (isFirst : Bool) : Reader (Option String) := do
  match ← peekToken with
  | none => stopAhead .endInObject
  | some '\x7d' => pure none
  | some character =>
    if isFirst then
      if character = '"' then
        skip
        return some (← string)
      else stopAhead .keyNotString
    else if character = ',' then
      skip
      match ← peekToken with
      | some '"' =>
        skip
        return some (← string)
      | some '\x7d' => stopAhead .trailingComma
      | some _ => stopAhead .keyNotString
      | none => stopAhead .endInValue
    else stopAhead .expectedCommaOrBrace

def colon : Reader Unit := do
  match ← peekToken with
  | some ':' => skip
  | some _ => stopAhead .expectedColon
  | none => stopAhead .endInObject

def closeList : Reader Unit := do
  match ← peekToken with
  | some ']' => skip
  | some ',' =>
    skip
    match ← peekToken with
    | some ']' => stopAhead .trailingComma
    | _ => stopAhead .trailingCharacters
  | some _ => stopAhead .trailingCharacters
  | none => stopAhead .endInList

def closeObject : Reader Unit := do
  match ← peekToken with
  | some '\x7d' => skip
  | some ',' => stopAhead .trailingComma
  | some _ => stopAhead .trailingCharacters
  | none => stopAhead .endInObject

def items (item : Reader Value) : Nat → List Value → Reader (List Value)
  | 0, read => pure read.reverse
  | fuel + 1, read => do
    if ← nextItem read.isEmpty then
      let value ← item
      items item fuel (value :: read)
    else pure read.reverse

def fields (item : Reader Value) : Nat → Bool → Fields → Reader Fields
  | 0, _, read => pure read
  | fuel + 1, isFirst, read => do
    match ← nextKey isFirst with
    | some key =>
      colon
      let value ← item
      fields item fuel false (Fields.insert key value read)
    | none => pure read

/-- Read a value; containers may nest less deeply than the given number of levels. The fields of an
object come back ordered by key, and of two fields with one key the later one stays. -/
def value : Nat → Reader Value
  | 0 => stopAhead .tooDeep
  | levels + 1 => do
    match ← peekToken with
    | none => stopAhead .endInValue
    | some 'n' =>
      skip
      literal ['u', 'l', 'l']
      pure .null
    | some 't' =>
      skip
      literal ['r', 'u', 'e']
      pure (.bool true)
    | some 'f' =>
      skip
      literal ['a', 'l', 's', 'e']
      pure (.bool false)
    | some '-' =>
      skip
      return .number (← number true)
    | some '"' =>
      skip
      return .string (← string)
    | some '[' =>
      if levels = 0 then stopAhead .tooDeep
      else
        skip
        let read ← items (value levels) ((← remaining) + 1) []
        closeList
        pure (.array read)
    | some '\x7b' =>
      if levels = 0 then stopAhead .tooDeep
      else
        skip
        let read ← fields (value levels) ((← remaining) + 1) true []
        closeObject
        pure (.object read)
    | some character =>
      if isDigit character then return .number (← number false) else stopAhead .expectedValue

private def skipExponent : Reader Unit := do
  skip
  match ← peek with
  | some '+' | some '-' => skip
  | _ => pure ()
  match ← peek with
  | some first =>
    if isDigit first then
      let _ ← skipWhile isDigit
    else stopInside .invalidNumber .invalidNumber
  | none => stop .invalidNumber

private def skipNumber : Reader Unit := do
  match ← peek with
  | some '0' =>
    skip
    match ← peek with
    | some next => if isDigit next then stopAhead .invalidNumber
    | none => pure ()
  | some first =>
    if isDigit first then
      let _ ← skipWhile isDigit
    else stopInside .invalidNumber .invalidNumber
  | none => stop .invalidNumber
  match ← peek with
  | some '.' =>
    skip
    if (← skipWhile isDigit).isEmpty then stopAhead .invalidNumber
    match ← peek with
    | some 'e' | some 'E' => skipExponent
    | _ => pure ()
  | some 'e' | some 'E' => skipExponent
  | _ => pure ()

private def skipString : Nat → Reader Unit
  | 0 => stop .endInString
  | fuel + 1 => do
    match ← peek with
    | none => stop .endInString
    | some '"' => skip
    | some '\\' =>
      skip
      match ← peek with
      | none => stop .endInString
      | some 'u' =>
        skip
        let _ ← hexEscape
        skipString fuel
      | some letter =>
        if (simpleEscape? letter).isSome then
          skip
          skipString fuel
        else stopInside .endInString .invalidEscape
    | some character =>
      if character.toNat < 0x20 then stop .controlInString
      else
        skip
        skipString fuel

/-- The containers around the value that is being skipped, innermost first. -/
private inductive Bracket where
  | list
  | object
deriving DecidableEq

/-- Skip the closing brackets after a value, up to a comma or the end of the outermost container;
`afterValue` tells whether a value stands before the cursor. The open containers come back. -/
private def skipClosings : Nat → Bool → List Bracket → Reader (List Bracket)
  | 0, _, _ => pure []
  | _, _, [] => pure []
  | fuel + 1, afterValue, innermost :: outer => do
    match innermost, ← peekToken with
    | _, some ',' =>
      if afterValue then
        skip
        pure (innermost :: outer)
      else pure (innermost :: outer)
    | .list, some ']' =>
      skip
      skipClosings fuel true outer
    | .object, some '\x7d' =>
      skip
      skipClosings fuel true outer
    | .list, some _ =>
      if afterValue then stopAhead .expectedCommaOrBracket else pure (innermost :: outer)
    | .object, some _ =>
      if afterValue then stopAhead .expectedCommaOrBrace else pure (innermost :: outer)
    | .list, none => stopAhead .endInList
    | .object, none => stopAhead .endInObject

private def skipKey : Reader Unit := do
  match ← peekToken with
  | some '"' =>
    skip
    skipString ((← remaining) + 1)
    colon
  | some _ => stopAhead .keyNotString
  | none => stopAhead .endInObject

/-- A value that nobody asks for is checked for its brackets, names and digits only: numbers have no
range, surrogates need no partner, and nesting has no limit. -/
private def skipValueWithin : Nat → List Bracket → Reader Unit
  | 0, _ => pure ()
  | fuel + 1, enclosing => do
    let opened ← match ← peekToken with
      | none => stopAhead .endInValue
      | some 'n' => do
        skip
        literal ['u', 'l', 'l']
        pure none
      | some 't' => do
        skip
        literal ['r', 'u', 'e']
        pure none
      | some 'f' => do
        skip
        literal ['a', 'l', 's', 'e']
        pure none
      | some '-' => do
        skip
        skipNumber
        pure none
      | some '"' => do
        skip
        skipString ((← remaining) + 1)
        pure none
      | some '[' => do
        skip
        pure (some Bracket.list)
      | some '\x7b' => do
        skip
        pure (some Bracket.object)
      | some character =>
        if isDigit character then do
          skipNumber
          pure none
        else stopAhead .expectedValue
    let containers := match opened with
      | some bracket => bracket :: enclosing
      | none => enclosing
    match ← skipClosings ((← remaining) + 1) opened.isNone containers with
    | [] => pure ()
    | .list :: outer => skipValueWithin fuel (.list :: outer)
    | .object :: outer =>
      skipKey
      skipValueWithin fuel (.object :: outer)

def skipValue : Reader Unit := do
  skipValueWithin ((← remaining) + 1) []

def describe : Value → String
  | .null => "null"
  | .bool value => s!"boolean `{value}`"
  | .number (.integer value) => s!"integer `{value}`"
  | .number (.real value) => "floating point `" ++ value.render ++ "`"
  | .string value => "string " ++ Text.quoted value
  | .array _ => "sequence"
  | .object _ => "map"

/-- Stop because the next value is not of the wanted kind. A scalar is read first, so that its own
faults come first; a container is named without a look inside. -/
def stopUnfit {α : Type} (wanted : String) : Reader α := do
  let found ← match ← peekToken with
    | some '[' => pure (.array [])
    | some '\x7b' => pure (.object [])
    | some 'n' | some 't' | some 'f' | some '-' | some '"' => value 1
    | some character =>
      if isDigit character then value 1 else stopAhead .expectedValue
    | none => stopAhead .expectedValue
  stop (.unfit s!"invalid type: {describe found}, expected {wanted}")

def stringOnly : Reader String := do
  match ← peekToken with
  | none => stopAhead .endInValue
  | some '"' =>
    skip
    string
  | some _ => stopUnfit "a string"

def finish : Reader Unit := do
  match ← peekToken with
  | none => pure ()
  | some _ => stopAhead .trailingCharacters

def run {α : Type} (reader : Reader α) (text : List Char) : Except Fault α :=
  (·.1) <$> (do
    let result ← reader
    finish
    pure result : Reader α) ⟨text, 0⟩

end Reader

def Value.parse (text : String) : Except Fault Value :=
  Reader.run (Reader.value nestingLimit) text.toList

end RouteExplorer.Json
