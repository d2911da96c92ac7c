import RouteExplorer.Script.Parser

/-!
Reading over bracketed text without its structure. A scan keeps the closing marks it still expects,
innermost first; inside a template the expected mark is the backtick. Types are read this way, and so
is the rest of a statement that cannot be read.
-/
namespace RouteExplorer.Script

namespace Source

/-- The end of a quoted text from an offset behind its opening quote; none where its line ends first. -/
def quotedEnd? (source : Source) (quote : Char) : Nat → Nat → Option Nat
  | 0, _ => none
  | steps + 1, offset =>
    match source.characters[offset]? with
    | none => none
    | some character =>
      if character = quote then some (offset + 1)
      else if character = '\\' then
        if source.characters[offset + 1]? = some '\r' ∧ source.characters[offset + 2]? = some '\n' then
          source.quotedEnd? quote steps (offset + 3)
        else source.quotedEnd? quote steps (offset + 2)
      else if character = '\n' || character = '\r' then none
      else source.quotedEnd? quote steps (offset + 1)

def closing? : Char → Option Char
  | '(' => some ')'
  | '[' => some ']'
  | '\x7b' => some '\x7d'
  | '\x60' => some '\x60'
  | _ => none

private def passTemplateText (source : Source) (outer : List Char) (offset : Nat) (character : Char) :
    List Char × Nat :=
  if character = '\x60' then (outer, offset + 1)
  else if character = '\\' then ('\x60' :: outer, offset + 2)
  else if character = '$' ∧ source.characters[offset + 1]? = some '\x7b' then
    ('\x7d' :: '\x60' :: outer, offset + 2)
  else ('\x60' :: outer, offset + 1)

/-- Pass over one piece of code: a comment, a quoted text, a bracket or a character. A closing brace
closes everything inside its pair, and none is passed without its pair. -/
private def passCode (source : Source) (expected : List Char) (offset : Nat) (character : Char) :
    Option (List Char × Nat) :=
  let gap := source.gapAt offset
  if offset < gap.stop then some (expected, gap.stop)
  else if character = '"' || character = '\'' then
    some (expected, (source.quotedEnd? character source.characters.size (offset + 1)).getD (offset + 1))
  else match closing? character with
    | some mark => some (mark :: expected, offset + 1)
    | none =>
      if character = '\x7d' then
        match expected.dropWhile (· != '\x7d') with
        | _ :: outer => some (outer, offset + 1)
        | [] => none
      else if expected.head? = some character then some (expected.tail, offset + 1)
      else some (expected, offset + 1)

/-- Pass over one piece of text; none at the end of the script and before a closing brace without its
pair. -/
def pass (source : Source) (expected : List Char) (offset : Nat) : Option (List Char × Nat) :=
  match source.characters[offset]?, expected with
  | none, _ => none
  | some character, '\x60' :: outer => some (passTemplateText source outer offset character)
  | some character, _ => passCode source expected offset character

def balancedEnd? (source : Source) : Nat → List Char → Nat → Option Nat
  | _, [], offset => some offset
  | 0, _ :: _, _ => none
  | steps + 1, mark :: outer, offset => do
    let (expected, next) ← source.pass (mark :: outer) offset
    source.balancedEnd? steps expected next

/-- The end of something that cannot be read: behind its semicolon or its last closing brace, or before
the closing brace of what is around it. -/
def brokenEnd (source : Source) : Nat → List Char → Nat → Nat
  | 0, _, offset => offset
  | steps + 1, expected, offset =>
    match source.pass expected offset with
    | none => offset
    | some ([], next) =>
      if source.characters[offset]? = some ';' || source.characters[offset]? = some '\x7d' then next
      else source.brokenEnd steps [] next
    | some (expected, next) => source.brokenEnd steps expected next

end Source

namespace Parser

/-- Read a bracketed text as a leaf, or fail where the next token opens none. -/
def balanced : Parser Syntax := do
  let start ← tokenStart
  match (← charAt start).bind Source.closing? with
  | none => failure
  | some mark =>
    let stop ← fun source position =>
      (source.balancedEnd? source.characters.size [mark] (start + 1)).map fun stop => (stop, position)
    moveTo stop
    pure (.leaf .other start stop)

/-- Read over something that cannot be read, or fail where nothing is left of it. -/
def broken : Parser Syntax := do
  let start ← tokenStart
  let stop ← fun source position => some (source.brokenEnd source.characters.size [] start, position)
  if stop = start then failure
  moveTo stop
  pure (.leaf .other start stop)

end Parser

end RouteExplorer.Script
