import RouteExplorer.Script.Source

/-!
Parsers over a script. A parser either fails without a trace or moves forward; the current offset is
always the end of the last token, so that nodes end where their last token ends. Looking ahead skips
the gap before the next token without moving.
-/
namespace RouteExplorer.Script

/-- A computation that reads tokens from an offset on, or fails. -/
abbrev Parser := ReaderT Source (StateT Nat Option)

namespace Parser

/-- The end of the last token. -/
def offset : Parser Nat := fun _ position => some (position, position)

def moveTo (target : Nat) : Parser Unit := fun _ _ => some ((), target)

def gapAhead : Parser Source.Gap := fun source position => some (source.gapAt position, position)

def tokenStart : Parser Nat := do return (← gapAhead).stop

def lineEndsAhead : Parser Bool := do return (← gapAhead).breaksLine

def charAt (position : Nat) : Parser (Option Char) := fun source current =>
  some (source.characters[position]?, current)

def peek : Parser (Option Char) := do charAt (← tokenStart)

def textAt (position : Nat) : List Char → Parser Bool
  | [] => pure true
  | character :: rest => do
    if (← charAt position) = some character then textAt (position + 1) rest else pure false

def looksAt (text : List Char) : Parser Bool := do textAt (← tokenStart) text

/-- Read the characters if the next token begins with them. -/
def accept (text : List Char) : Parser Bool := do
  let start ← tokenStart
  if ← textAt start text then
    moveTo (start + text.length)
    pure true
  else pure false

def expect (text : List Char) : Parser Unit := do
  if !(← accept text) then failure

def expectChar (character : Char) : Parser Unit := expect [character]

def acceptChar (character : Char) : Parser Bool := accept [character]

/-- Read the first of some marks that the next token begins with. -/
def acceptAny : List (List Char) → Parser Bool
  | [] => pure false
  | mark :: rest => do if ← accept mark then pure true else acceptAny rest

def inMarkup : Parser Bool := fun source position => some (source.markup, position)

def size : Parser Nat := fun source position => some (source.characters.size, position)

/-- Run a parser without moving; whether it succeeds. -/
def succeeds {α : Type} (parser : Parser α) : Parser Bool := fun source position =>
  match parser source position with
  | some _ => some (true, position)
  | none => some (false, position)

def optionally {α : Type} (parser : Parser α) : Parser (Option α) := fun source position =>
  match parser source position with
  | some (result, next) => some (some result, next)
  | none => some (none, position)

private def repeatUpTo {σ : Type} (step : σ → Parser (Option σ)) : Nat → σ → Parser σ
  | 0, state => pure state
  | steps + 1, state => do
    match ← step state with
    | some next => repeatUpTo step steps next
    | none => pure state

/-- Repeat a step until it has nothing more to do. A script bounds the number of steps. -/
def repeatFrom {σ : Type} (step : σ → Parser (Option σ)) (start : σ) : Parser σ := do
  repeatUpTo step (2 * (← size) + 2) start

def collect {α : Type} (step : Parser (Option α)) : Parser (List α) := do
  let found ← repeatFrom (fun found => do return (← step).map (· :: found)) []
  pure found.reverse

private def separators : List Char :=
  [':', ';', '\x60', '"', '\'', '@', '#', '.', ',', '|', '^', '&', '<', '=', '>', '+', '-', '*', '/',
    '\\', '%', '?', '!', '~', '(', ')', '[', ']', '\x7b', '\x7d']

def isWordPart (character : Char) : Bool :=
  0x20 ≤ character.toNat && !Source.isSpace character && !separators.contains character

private def isHexDigit (character : Char) : Bool :=
  character.isDigit || ('a' ≤ character && character ≤ 'f') || ('A' ≤ character && character ≤ 'F')

/-- The end of a character written as a code in a word. -/
private def escapedWordPart? (source : Source) (position : Nat) : Option Nat :=
  if source.characters[position]? = some '\\' ∧ source.characters[position + 1]? = some 'u' then
    if source.characters[position + 2]? = some '\x7b' then
      let digits := (source.slice (position + 3) source.characters.size).takeWhile isHexDigit
      if source.characters[position + 3 + digits.length]? = some '\x7d' then
        some (position + 4 + digits.length)
      else none
    else some (position + 6)
  else none

private def wordEndFrom (source : Source) : Nat → Nat → Nat
  | 0, position => position
  | steps + 1, position =>
    match source.characters[position]? with
    | none => position
    | some character =>
      if isWordPart character then wordEndFrom source steps (position + 1)
      else match escapedWordPart? source position with
        | some next => wordEndFrom source steps next
        | none => position

/-- The end of the word at an offset; the offset itself where no word begins. -/
def wordEnd (source : Source) (position : Nat) : Nat :=
  match source.characters[position]? with
  | some character =>
    if character.isDigit then position else wordEndFrom source source.characters.size position
  | none => position

def wordAt (position : Nat) : Parser String := fun source current =>
  some (String.ofList (source.slice position (wordEnd source position)), current)

def peekWord : Parser String := do wordAt (← tokenStart)

def acceptWord (word : String) : Parser Bool := do
  let start ← tokenStart
  if (← wordAt start) = word then
    moveTo (start + word.length)
    pure true
  else pure false

def acceptAnyWord (words : List String) : Parser Bool := do
  let word ← peekWord
  if words.contains word then acceptWord word else pure false

def expectWord (word : String) : Parser Unit := do
  if !(← acceptWord word) then failure

def anyWord (kind : NodeKind) : Parser Syntax := do
  let start ← tokenStart
  let word ← wordAt start
  if word.isEmpty then failure
  let stop ← fun source position => some (wordEnd source start, position)
  moveTo stop
  pure (.leaf kind start stop)

def reservedWords : List String :=
  ["break", "case", "catch", "class", "const", "continue", "debugger", "default", "delete", "do",
    "else", "enum", "export", "extends", "false", "finally", "for", "function", "if", "import", "in",
    "instanceof", "new", "null", "return", "super", "switch", "this", "throw", "true", "try",
    "typeof", "var", "void", "while", "with"]

def identifier : Parser Syntax := do
  if reservedWords.contains (← peekWord) then failure
  anyWord .identifier

/-- A statement ends at a semicolon, before a closing brace, at the end of a line or at the end of
the script. -/
def terminator : Parser Unit := do
  let gap ← gapAhead
  match ← charAt gap.stop with
  | some ';' => moveTo (gap.stop + 1)
  | some '\x7d' | none => pure ()
  | some _ => if !gap.breaksLine then failure

end Parser

end RouteExplorer.Script
