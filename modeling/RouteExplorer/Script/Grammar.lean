import RouteExplorer.Script.Statement

/-!
The grammar: every goal with its reader. A goal is reached from another one behind a few steps that
read nothing, so the length of a script bounds how deep goals lie in each other.
-/
namespace RouteExplorer.Script

def readGoal (read : Reading) : Reading
  | .statement => Parser.statement read
  | .sequence => Parser.sequence read
  | .assignment arrowTypes => Parser.assignment read arrowTypes
  | .unary => Parser.unary read
  | .leftHand => Parser.leftHand read
  | .primary => Parser.primary read
  | .element => Parser.element read
  | .type => Parser.typeText read
  | .typeOperand => Parser.typeOperand read

/-- Read a goal with at most so many goals inside of each other. -/
def readWithin : Nat → Reading
  | 0 => fun _ => failure
  | depth + 1 => readGoal (readWithin depth)

/-- No script nests goals deeper than this. -/
def Source.depth (source : Source) : Nat := 16 * source.characters.size + 64

/-- Read the statements of a script. A closing brace without its pair is read over. -/
def Parser.script : Parser (List Syntax) := do
  let depth ← fun source position => some (source.depth, position)
  if ← looksAt ['#', '!'] then
    moveTo (← fun source position => some (source.lineCommentEnd source.characters.size 2, position))
  let found ← collect do
    let inner ← statements (readWithin depth)
    if (← peek).isNone then
      if inner.isEmpty then return none else return some inner
    else
      expectChar '\x7d'
      return some inner
  pure found.flatten

def Source.tree (source : Source) : Syntax :=
  match Parser.script source 0 with
  | some (children, _) => .group 0 source.characters.size children
  | none => .group 0 source.characters.size []

end RouteExplorer.Script
