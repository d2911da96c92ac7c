import RouteExplorer.Script.Bracket

namespace RouteExplorer.Script.Parser

def stringLiteral : Parser Syntax := do
  let start ← tokenStart
  match ← charAt start with
  | some quote =>
    if quote != '"' && quote != '\'' then failure
    let stop ← fun source position =>
      (source.quotedEnd? quote source.characters.size (start + 1)).map fun stop => (stop, position)
    moveTo stop
    pure (.leaf .string start stop)
  | none => failure

private def runEnd (source : Source) (inRun : Char → Bool) : Nat → Nat → Nat
  | 0, offset => offset
  | steps + 1, offset =>
    match source.characters[offset]? with
    | some character => if inRun character then runEnd source inRun steps (offset + 1) else offset
    | none => offset

private def runFrom (inRun : Char → Bool) (offset : Nat) : Parser Nat := fun source position =>
  some (runEnd source inRun source.characters.size offset, position)

private def isDigitPart (character : Char) : Bool := character.isDigit || character == '_'

/-- The end of an exponent at an offset, or the offset where there is none. -/
private def exponentEnd (offset : Nat) : Parser Nat := do
  if (← charAt offset) != some 'e' && (← charAt offset) != some 'E' then return offset
  let signed := (← charAt (offset + 1)) == some '+' || (← charAt (offset + 1)) == some '-'
  let digits := if signed then offset + 2 else offset + 1
  let stop ← runFrom isDigitPart digits
  pure (if stop = digits then offset else stop)

def numberLiteral : Parser Syntax := do
  let start ← tokenStart
  let first ← charAt start
  let second ← charAt (start + 1)
  let dotted := first == some '.' && second.any Char.isDigit
  if !first.any Char.isDigit && !dotted then failure
  let based := first == some '0' && second.any fun mark => "xXoObB".contains mark
  let stop ←
    if based then runFrom (fun character => character.isAlphanum || character == '_') (start + 2)
    else do
      let whole ← runFrom isDigitPart start
      let fraction ←
        if (← charAt whole) = some '.' then runFrom isDigitPart (whole + 1) else pure whole
      let stop ← exponentEnd fraction
      pure (if (← charAt stop) = some 'n' then stop + 1 else stop)
  moveTo stop
  pure (.leaf .other start stop)

/-- The end of a regular expression's body: its closing slash outside of any character class. -/
private def expressionBodyEnd? (source : Source) : Nat → Bool → Nat → Option Nat
  | 0, _, _ => none
  | steps + 1, inClass, offset =>
    match source.characters[offset]? with
    | none => none
    | some '\n' => none
    | some '\\' => expressionBodyEnd? source steps inClass (offset + 2)
    | some '[' => expressionBodyEnd? source steps true (offset + 1)
    | some ']' => expressionBodyEnd? source steps false (offset + 1)
    | some '/' =>
      if inClass then expressionBodyEnd? source steps true (offset + 1) else some (offset + 1)
    | some _ => expressionBodyEnd? source steps inClass (offset + 1)

def regularExpression : Parser Syntax := do
  let start ← tokenStart
  if (← charAt start) != some '/' then failure
  let body ← fun source position =>
    (expressionBodyEnd? source source.characters.size false (start + 1)).map fun stop => (stop, position)
  let stop ← runFrom Char.isAlpha body
  moveTo stop
  pure (.leaf .other start stop)

end RouteExplorer.Script.Parser
