import RouteExplorer.Script.Goal
import RouteExplorer.Script.Literal

namespace RouteExplorer.Script.Parser

variable (read : Reading)

def typeArguments : Parser Syntax := do
  let start ← tokenStart
  expectChar '<'
  discard (commaSeparated (read .type) ['>'])
  nodeFrom .other start []

private def typeParameter : Parser Syntax := do
  let start ← tokenStart
  discard (anyWord .other)
  discard (collect do
    let word ← peekWord
    if word.isEmpty || word == "extends" then return none
    return some (← anyWord .other))
  if ← acceptWord "extends" then discard (read .type)
  if ← acceptChar '=' then discard (read .type)
  nodeFrom .other start []

def typeParameters : Parser Syntax := do
  let start ← tokenStart
  expectChar '<'
  discard (commaSeparated (typeParameter read) ['>'])
  nodeFrom .other start []

def optionalTypeParameters : Parser Unit := do
  if (← peek) = some '<' then discard (typeParameters read)

private def functionResult : Parser Unit := do
  expect ['=', '>']
  discard (read .type)

private def functionType : Parser Unit := do
  optionalTypeParameters read
  if (← peek) != some '(' then failure
  discard balanced
  functionResult read

/-- A bracketed type, which is a function's where an arrow follows. -/
private def roundType : Parser Unit := do
  discard balanced
  if ← looksAt ['=', '>'] then functionResult read

private def nameTail : Parser Unit := do
  discard (repeatFrom (fun () => do
    if ← looksAt ['.', '.'] then return none
    if !(← acceptChar '.') then return none
    discard (acceptChar '#')
    discard (anyWord .other)
    return some ()) ())
  if (← peek) = some '<' && !(← lineEndsAhead) then discard (optionally (typeArguments read))

private def typeWords : List String := ["void", "null", "this", "true", "false", "typeof", "import", "new", "const"]

private def wordType (word : String) : Parser Unit := do
  if reservedWords.contains word && !typeWords.contains word then failure
  discard (anyWord .other)
  if word = "new" then functionType read
  else if word = "import" then
    if (← peek) != some '(' then failure
    discard balanced
    nameTail read
  else if word = "typeof" || word = "keyof" then discard (read .typeOperand)
  else
    let ahead ← peekWord
    let together := !ahead.isEmpty && !(← lineEndsAhead)
    if word = "abstract" && ahead = "new" then
      expectWord "new"
      functionType read
    else if word = "asserts" && together && ahead != "is" then
      discard (anyWord .other)
      if ← acceptWord "is" then discard (read .type)
    else if (word = "unique" || word = "infer") && together && ahead != "extends" then
      discard (read .typeOperand)
    else if word = "readonly" && (together || (← peek) = some '[') then discard (read .typeOperand)
    else if together && ahead = "is" then
      expectWord "is"
      discard (read .type)
    else nameTail read

/-- Marks behind a type that make an array of it or look an entry up in it. -/
private def typeSuffixes : Parser Unit := do
  discard (repeatFrom (fun () => do
    if (← peek) = some '[' && !(← lineEndsAhead) then
      discard balanced
      return some ()
    else return none) ())

def typeOperand : Parser Syntax := do
  let start ← tokenStart
  let first ← peek
  if first = some '(' then roundType read
  else if first = some '<' then functionType read
  else if first = some '[' || first = some '\x7b' || first = some '\x60' then discard balanced
  else if first = some '"' || first = some '\'' then discard stringLiteral
  else if first = some '-' then
    expectChar '-'
    discard numberLiteral
  else if first.any Char.isDigit then discard numberLiteral
  else wordType read (← peekWord)
  typeSuffixes
  groupFrom start []

private def typeCondition : Parser Unit := do
  expectWord "extends"
  discard (read .type)
  expectChar '?'
  discard (read .type)
  expectChar ':'
  discard (read .type)

def typeText : Parser Syntax := do
  let start ← tokenStart
  discard (acceptAny [['|'], ['&']])
  discard (read .typeOperand)
  discard (repeatFrom (fun () => do
    if (← looksAt ['|', '|']) || (← looksAt ['&', '&']) then return none
    if !(← acceptAny [['|'], ['&']]) then return none
    discard (read .typeOperand)
    return some ()) ())
  if (← peekWord) = "extends" then discard (optionally (typeCondition read))
  groupFrom start []

def typeClause : Parser Syntax := do
  let start ← tokenStart
  expectChar ':'
  discard (read .type)
  nodeFrom .typeClause start []

end RouteExplorer.Script.Parser
