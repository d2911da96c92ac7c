import RouteExplorer.Script.Signature

namespace RouteExplorer.Script.Parser

variable (read : Reading)

def memberName : Parser Syntax := do
  let start ← tokenStart
  match ← charAt start with
  | some '#' =>
    expectChar '#'
    discard (anyWord .other)
    nodeFrom .privateName start []
  | some '[' =>
    expectChar '['
    let inner ← read .sequence
    expectChar ']'
    groupFrom start [inner]
  | some '"' | some '\'' => stringLiteral
  | some character => if character.isDigit || character == '.' then numberLiteral else anyWord .memberName
  | none => failure

private def memberModifiers : List String :=
  ["public", "private", "protected", "static", "override", "readonly", "abstract", "declare", "async",
    "accessor", "get", "set"]

def startsName (character : Char) : Bool :=
  isWordPart character || ['"', '\'', '[', '#', '*'].contains character

/-- Read a word before the name of a member, if it is one: the rest of the member is on its line. -/
def modifier (words : List String) : Parser (Option Syntax) := do
  let start ← tokenStart
  if (← peek) = some '*' then
    expectChar '*'
    return some (← nodeFrom .other start [])
  if !words.contains (← peekWord) then return none
  optionally do
    discard (anyWord .other)
    if (← lineEndsAhead) || !(← peek).any startsName then failure
    nodeFrom .other start []

private def memberEnd : Parser Unit := do
  if !(← acceptChar ';') then
    match ← peek with
    | some '\x7d' | none => pure ()
    | some _ => if !(← lineEndsAhead) then failure

private def methodFrom (start : Nat) (marks : List Syntax) (name : Syntax) : Parser (List Syntax) := do
  let inputs ← callSignature read
  if (← peek) = some '\x7b' then
    let body ← block read
    let method ← nodeFrom .methodDefinition start [name.inRole .name, inputs, body.inRole .body]
    pure (marks ++ [method])
  else
    memberEnd
    return [← groupFrom start (marks ++ [name, inputs])]

private def fieldFrom (start : Nat) (marks : List Syntax) (name : Syntax) : Parser (List Syntax) := do
  discard (acceptChar '!')
  if (← peek) = some ':' then discard (typeClause read)
  let value ← if ← acceptChar '=' then (do return [← read .sequence]) else pure []
  memberEnd
  return [← groupFrom start (marks ++ [name] ++ value)]

private def indexSignature : Parser Unit := do
  expectChar '['
  discard (anyWord .other)
  expectChar ':'
  discard (read .type)
  expectChar ']'
  if (← peek) = some ':' then discard (typeClause read)
  memberEnd

private def staticBlock : Parser Syntax := do
  expectWord "static"
  block read

private def namedMember (marks : List Syntax) : Parser (List Syntax) := do
  let start ← tokenStart
  discard (collect (modifier memberModifiers))
  match ← optionally (indexSignature read) with
  | some () => return [← groupFrom start marks]
  | none =>
    let name ← memberName read
    discard (acceptChar '?')
    if (← peek) = some '(' || (← peek) = some '<' then methodFrom read start marks name
    else fieldFrom read start marks name

private def member : Parser (List Syntax) := do
  let start ← tokenStart
  let marks ← decorators read
  match ← peek with
  | some ';' =>
    expectChar ';'
    return [← groupFrom start marks]
  | some '\x7d' | none => return [← groupFrom start marks]
  | some _ =>
    match ← optionally (staticBlock read) with
    | some body => return [← groupFrom start (marks ++ [body])]
    | none => namedMember read marks

/-- Read members until a closing brace or the end of the script. A member that cannot be read is read
over. -/
private def members : Parser (List Syntax) := do
  let found ← collect do
    let comments := (← gapAhead).comments
    match ← peek with
    | none | some '\x7d' => return none
    | some _ =>
      match ← optionally (member read) with
      | some children => return some (comments ++ children)
      | none => return (← optionally broken).map fun skipped => comments ++ [skipped]
  pure found.flatten

private def classBody : Parser Syntax := do
  let start ← tokenStart
  expectChar '\x7b'
  let children ← members read
  if (← peek).isSome then expectChar '\x7d'
  nodeFrom .classBody start children

private def heritage : Parser (List Syntax) := collect do
  if ← acceptWord "extends" then
    let parent ← read .leftHand
    if (← peek) = some '<' then discard (typeArguments read)
    return some parent
  else if ← acceptWord "implements" then
    let start ← tokenStart
    discard (read .type)
    discard (collect do if ← acceptChar ',' then return some (← read .type) else return none)
    return some (← nodeFrom .other start [])
  else return none

private def className : Parser (List Syntax) := do
  if (← peekWord) = "implements" then return []
  match ← optionally identifier with
  | some name => return [name.inRole .name]
  | none => return []

private def classTail : Parser (List Syntax × List Syntax) := do
  expectWord "class"
  let name ← className
  optionalTypeParameters read
  let parents ← heritage read
  let body ← classBody read
  pure (name, name ++ parents ++ [body.inRole .body])

def classDeclaration (marks : List Syntax) : Parser Syntax := do
  let start ← match marks with
    | mark :: _ => pure mark.start
    | [] => tokenStart
  let isAbstract ← acceptWord "abstract"
  let (name, children) ← classTail read
  if name.isEmpty then failure
  nodeFrom (if isAbstract then .abstractClassDeclaration else .classDeclaration) start (marks ++ children)

def classExpression : Parser Syntax := do
  let start ← tokenStart
  let marks ← decorators read
  let (_, children) ← classTail read
  nodeFrom .classExpression start (marks ++ children)

end RouteExplorer.Script.Parser
