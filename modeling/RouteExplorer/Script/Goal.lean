import RouteExplorer.Script.Parser

namespace RouteExplorer.Script

/-- A part of a script. Where arrows have no result types, a colon behind parameters is not theirs. -/
inductive Goal where
  | statement
  | sequence
  | assignment (arrowTypes : Bool)
  | unary
  | leftHand
  | primary
  | element
  | type
  | typeOperand
deriving DecidableEq, Repr

abbrev Reading := Goal → Parser Syntax

namespace Parser

/-- Read items up to a closing mark, with commas between them and perhaps one behind the last. -/
def commaSeparated (item : Parser Syntax) (close : List Char) : Parser (List Syntax) := do
  let (items, _) ← repeatFrom (fun (items, more) => do
    if !more || (← looksAt close) then return none
    let next ← item
    return some (next :: items, ← acceptChar ',')) (([] : List Syntax), true)
  expect close
  pure items.reverse

def nodeFrom (kind : NodeKind) (start : Nat) (children : List Syntax) : Parser Syntax := do
  pure (.node kind none start (← offset) children)

def groupFrom (start : Nat) (children : List Syntax) : Parser Syntax :=
  nodeFrom .other start children

/-- Read a part where a word is next and the next token behind it is on the same line. -/
def wordOnLine (word : String) : Parser Unit := do
  expectWord word
  if ← lineEndsAhead then failure

end Parser

end RouteExplorer.Script
