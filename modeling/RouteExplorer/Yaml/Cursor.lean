namespace RouteExplorer.Yaml

def isBreak (character : Char) : Bool :=
  ['\n', '\r', '\u0085', '\u2028', '\u2029'].contains character

def isBlank (character : Char) : Bool := character == ' ' || character == '\t'

/-- A blank or the end of a line is next, or the text ends. -/
def startsBlank : List Char → Bool
  | [] => true
  | character :: _ => isBlank character || isBreak character

def isNameCharacter (character : Char) : Bool :=
  character.isAlphanum || character == '_' || character == '-'

def isPrintable (character : Char) : Bool :=
  let code := character.toNat
  code = 0x09 || code = 0x0A || code = 0x0D || (0x20 ≤ code && code ≤ 0x7E) || code = 0x85 ||
    (0xA0 ≤ code && code ≤ 0xFFFD) || 0x10000 ≤ code

structure Cursor where
  rest : List Char
  index : Nat
  line : Nat
  column : Nat

def Cursor.start (text : List Char) : Cursor := ⟨text, 0, 0, 0⟩

abbrev Reader := StateT Cursor Option

namespace Reader

def rest : Reader (List Char) := fun cursor => some (cursor.rest, cursor)

def column : Reader Nat := fun cursor => some (cursor.column, cursor)

def peek : Reader (Option Char) := fun cursor => some (cursor.rest.head?, cursor)

def nextIs (accepts : Char → Bool) : Reader Bool := do return (← peek).any accepts

/-- Read some characters of the same line. -/
def skip (count : Nat) : Reader Unit := fun cursor =>
  some ((), { cursor with
    rest := cursor.rest.drop count
    index := cursor.index + count
    column := cursor.column + count })

def takeWhile (accepts : Char → Bool) : Reader (List Char) := do
  let taken := (← rest).takeWhile accepts
  skip taken.length
  pure taken

def expect (character : Char) : Reader Unit := do
  if (← peek) != some character then failure
  skip 1

/-- Read the end of a line, if there is one: a line feed, or one of the two separators, which stay
what they are. -/
def takeBreak : Reader (Option Char) := fun cursor =>
  let next (kept : Char) (count : Nat) : Option (Option Char × Cursor) :=
    some (some kept, ⟨cursor.rest.drop count, cursor.index + count, cursor.line + 1, 0⟩)
  match cursor.rest with
  | '\r' :: '\n' :: _ => next '\n' 2
  | '\u2028' :: _ => next '\u2028' 1
  | '\u2029' :: _ => next '\u2029' 1
  | character :: _ => if isBreak character then next '\n' 1 else some (none, cursor)
  | [] => some (none, cursor)

/-- Read blanks and a comment up to the end of the line, which must be next. -/
def finishLine : Reader Unit := do
  let _ ← takeWhile isBlank
  if ← nextIs (· == '#') then
    let _ ← takeWhile (!isBreak ·)
  if !startsBlank (← rest) then failure
  let _ ← takeBreak

/-- Three given characters that stand alone at the start of a line. -/
def atMark (mark : List Char) : Reader Bool := fun cursor =>
  some (cursor.column == 0 && mark.isPrefixOf cursor.rest && startsBlank (cursor.rest.drop 3), cursor)

def atDocumentMark : Reader Bool := do
  if ← atMark ['-', '-', '-'] then return true
  atMark ['.', '.', '.']

private def repeatUpTo {σ : Type} (step : σ → Reader (Option σ)) : Nat → σ → Reader σ
  | 0, state => pure state
  | steps + 1, state => do
    match ← step state with
    | some next => repeatUpTo step steps next
    | none => pure state

/-- Repeat a step that reads at least one character, until it has nothing more to do. -/
def repeatFrom {σ : Type} (step : σ → Reader (Option σ)) (start : σ) : Reader σ := do
  repeatUpTo step ((← rest).length + 1) start

end Reader

end RouteExplorer.Yaml
