import RouteExplorer.Script.TypeText

namespace RouteExplorer.Script.Parser

variable (read : Reading)

def argument : Parser Syntax := do
  let start ← tokenStart
  if ← accept ['.', '.', '.'] then
    let spread ← read (.assignment true)
    groupFrom start [spread]
  else read (.assignment true)

def callArguments : Parser Syntax := do
  let start ← tokenStart
  expectChar '('
  let values ← commaSeparated (argument read) [')']
  nodeFrom .arguments start values

/-- The call of a callee, perhaps with generic arguments, which start on any line. -/
private def decoratorCall (callee : Syntax) : Parser Syntax := do
  let typed ← if (← peek) = some '<' then (do return [← typeArguments read]) else pure []
  let values ← callArguments read
  nodeFrom .call callee.start
    (callee.inRole .function :: typed ++ [values.inRole .arguments])

private def dottedName : Parser Syntax := do
  let first ← identifier
  repeatFrom (fun object => do
    if !(← acceptChar '.') then return none
    let property ← anyWord .memberName
    return some (← nodeFrom .member first.start [object, property])) first

/-- What follows the mark of a decorator: a dotted name, a call of one, or either in brackets. -/
private def decorated : Parser Syntax := do
  let start ← tokenStart
  if ← acceptChar '(' then
    let callee ← dottedName
    let inner ← optionally (decoratorCall read callee)
    expectChar ')'
    groupFrom start [inner.getD callee]
  else
    let callee ← dottedName
    return (← optionally (decoratorCall read callee)).getD callee

/-- Read a decorator. Comments behind its mark are its first children. -/
def decorator : Parser Syntax := do
  let start ← tokenStart
  expectChar '@'
  let comments := (← gapAhead).comments
  let inner ← decorated read
  nodeFrom .decorator start (comments ++ [inner])

def decorators : Parser (List Syntax) := collect do
  if (← peek) = some '@' then return some (← decorator read) else return none

def pattern : Parser Syntax := do
  let start ← tokenStart
  let first ← peek
  if first = some '[' || first = some '\x7b' then
    let inner ← read .primary
    groupFrom start [inner]
  else
    let word ← peekWord
    if word = "this" || word = "undefined" then anyWord .other else identifier

/-- Words before a parameter that make a member of it. -/
private def parameterModifiers : List String :=
  ["public", "private", "protected", "override", "readonly"]

private def patternStartsAt (position : Nat) : Parser Bool := do
  match ← charAt position with
  | some character => pure (isWordPart character || character == '[' || character == '\x7b')
  | none => pure false

private def parameterModifier : Parser (Option Syntax) := do
  let start ← tokenStart
  if !parameterModifiers.contains (← peekWord) then return none
  optionally do
    discard (anyWord .other)
    if !(← patternStartsAt (← tokenStart)) then failure
    nodeFrom .other start []

private def parameter : Parser Syntax := do
  let start ← tokenStart
  let marks ← decorators read
  discard (collect parameterModifier)
  let restStart ← tokenStart
  let target ←
    if ← accept ['.', '.', '.'] then do
      let inner ← pattern read
      groupFrom restStart [inner]
    else pattern read
  let isOptional ← acceptChar '?'
  let clause ←
    if (← peek) = some ':' then (do return [(← typeClause read).inRole .type]) else pure []
  let default_ ←
    if ← acceptChar '=' then (do return [(← read (.assignment true)).inRole .value]) else pure []
  nodeFrom (if isOptional then .optionalParameter else .requiredParameter) start
    (marks ++ [target.inRole .pattern] ++ clause ++ default_)

def parameters : Parser Syntax := do
  let start ← tokenStart
  expectChar '('
  let children ← commaSeparated (parameter read) [')']
  nodeFrom .parameters start children

def callSignature : Parser Syntax := do
  optionalTypeParameters read
  let inputs ← parameters read
  if (← peek) = some ':' then discard (typeClause read)
  pure (inputs.inRole .parameters)

/-- Read statements until a closing brace or the end of the script. A statement that cannot be read is
read over. -/
def statements : Parser (List Syntax) := collect do
  match ← peek with
  | none | some '\x7d' => return none
  | some _ =>
    match ← optionally (read .statement) with
    | some statement => return some statement
    | none => optionally broken

def block : Parser Syntax := do
  let start ← tokenStart
  expectChar '\x7b'
  let children ← statements read
  expectChar '\x7d'
  groupFrom start children

def functionTail : Parser (List Syntax) := do
  let inputs ← callSignature read
  let body ← block read
  pure [inputs, body.inRole .body]

end RouteExplorer.Script.Parser
