import RouteExplorer.Script.Markup

namespace RouteExplorer.Script.Parser

variable (read : Reading)

private def condition : Parser Syntax := do
  expectChar '('
  let value ← read .sequence
  expectChar ')'
  pure value

private def binding : Parser Syntax := do
  let start ← tokenStart
  let target ← pattern read
  discard (acceptChar '!')
  if (← peek) = some ':' then discard (typeClause read)
  let value ← if ← acceptChar '=' then (do return [← read (.assignment true)]) else pure []
  groupFrom start (target :: value)

private def bindings : Parser (List Syntax) := do
  let first ← binding read
  let more ← collect do
    if ← acceptChar ',' then return some (← binding read) else return none
  pure (first :: more)

private def variableWord : Parser Unit := do
  let word ← peekWord
  if !(["var", "let", "const", "using"].contains word) then failure
  discard (anyWord .other)
  if word = "using" && (← lineEndsAhead) then failure

private def variableStatement : Parser (List Syntax) := do
  variableWord
  let names ← bindings read
  terminator
  pure names

private def functionDeclaration : Parser (List Syntax) := do
  if ← acceptWord "async" then
    if ← lineEndsAhead then failure
  expectWord "function"
  discard (acceptChar '*')
  let name ← optionally identifier
  let inputs ← callSignature read
  if (← peek) = some '\x7b' then
    let body ← block read
    pure (name.toList ++ [inputs, body])
  else
    terminator
    pure (name.toList ++ [inputs])

private def interfaceDeclaration : Parser (List Syntax) := do
  wordOnLine "interface"
  let name ← identifier
  optionalTypeParameters read
  if ← acceptWord "extends" then
    discard (read .type)
    discard (collect do if ← acceptChar ',' then return some (← read .type) else return none)
  if (← peek) != some '\x7b' then failure
  discard balanced
  pure [name]

private def typeAlias : Parser (List Syntax) := do
  wordOnLine "type"
  let name ← identifier
  optionalTypeParameters read
  expectChar '='
  discard (read .type)
  terminator
  pure [name]

private def enumeration : Parser (List Syntax) := do
  discard (acceptWord "const")
  expectWord "enum"
  let name ← identifier
  if (← peek) != some '\x7b' then failure
  discard balanced
  pure [name]

/-- Read a namespace: its name, which may be quoted, and its statements, which may be missing. -/
private def namespaceDeclaration : Parser (List Syntax) := do
  let word ← peekWord
  if word != "namespace" && word != "module" then failure
  wordOnLine word
  if (← peek) = some '"' || (← peek) = some '\'' then
    let name ← stringLiteral
    if (← peek) = some '\x7b' then return [name, ← block read]
    else
      terminator
      return [name]
  else
    let name ← identifier
    discard (collect do if ← acceptChar '.' then return some (← anyWord .other) else return none)
    return [name, ← block read]

private def globalDeclaration : Parser (List Syntax) := do
  expectWord "global"
  return [← block read]

private def importDeclaration : Parser (List Syntax) := do
  expectWord "import"
  if (← peek) = some '(' || (← peek) = some '.' then failure
  discard (collect do
    if ← acceptAny [['*'], [',']] then return some ()
    else if (← peek) = some '\x7b' then
      discard balanced
      return some ()
    else if (← peekWord).isEmpty then return none
    else
      discard (anyWord .other)
      return some ())
  let value ← if ← acceptChar '=' then (do return [← read .sequence]) else
    (do return (← optionally stringLiteral).toList)
  discard (optionally (do
    if !(← acceptAnyWord ["with", "assert"]) then failure
    balanced))
  terminator
  pure value

private def decoratedClass (before : List Syntax) : Parser Syntax := do
  let own ← decorators read
  classDeclaration read (before ++ own)

/-- Read one of the declarations without decorators that are not classes. -/
private def plainDeclaration : Parser Syntax := do
  let start ← tokenStart
  let children ←
    enumeration <|> variableStatement read <|> functionDeclaration read <|> interfaceDeclaration read <|>
      typeAlias read <|> namespaceDeclaration read
  groupFrom start children

private def ambientDeclaration : Parser Syntax := do
  let start ← tokenStart
  wordOnLine "declare"
  let inner ← classDeclaration read [] <|> (do
    let start ← tokenStart
    groupFrom start (← globalDeclaration read)) <|> plainDeclaration read
  groupFrom start [inner]

private def declaration : Parser Syntax :=
  decoratedClass read [] <|> ambientDeclaration read <|> plainDeclaration read

private def exportSource : Parser Unit := do
  if ← acceptWord "from" then
    discard stringLiteral
    discard (optionally (do
      if !(← acceptAnyWord ["with", "assert"]) then failure
      balanced))
  terminator

private def exportedNames : Parser (List Syntax) := do
  discard (optionally (do
    expectWord "type"
    if (← peek) != some '*' && (← peek) != some '\x7b' then failure))
  if ← acceptChar '*' then
    if ← acceptWord "as" then
      if (← peekWord).isEmpty then discard stringLiteral else discard (anyWord .other)
  else
    if (← peek) != some '\x7b' then failure
    discard balanced
  exportSource
  pure []

private def exportedNamespace : Parser (List Syntax) := do
  expectWord "as"
  expectWord "namespace"
  discard identifier
  terminator
  pure []

private def exportedValue : Parser (List Syntax) := do
  let value ← read .sequence
  terminator
  pure [value]

private def exportedDefault : Parser (List Syntax) := do
  expectWord "default"
  (do return [← decoratedClass read []]) <|>
    functionDeclaration read <|> interfaceDeclaration read <|> exportedValue read

private def exportedAssignment : Parser (List Syntax) := do
  expectChar '='
  exportedValue read

private def exportDeclaration (marks : List Syntax) (start : Nat) : Parser Syntax := do
  expectWord "export"
  let children ←
    exportedDefault read <|> exportedAssignment read <|> exportedNames <|> exportedNamespace <|>
      importDeclaration read <|> (do return [← declaration read])
  nodeFrom .exportStatement start (marks ++ children)

private def branches : Parser (List Syntax) := do
  expectWord "if"
  let test ← condition read
  let accepted ← read .statement
  if ← acceptWord "else" then return [test, accepted, ← read .statement]
  else return [test, accepted]

private def loopBefore : Parser (List Syntax) := do
  if !(← acceptAnyWord ["while", "with"]) then failure
  let test ← condition read
  return [test, ← read .statement]

private def loopBehind : Parser (List Syntax) := do
  expectWord "do"
  let body ← read .statement
  expectWord "while"
  let test ← condition read
  discard (acceptChar ';')
  pure [body, test]

private def expressionUnless (mark : Char) : Parser (List Syntax) := do
  if (← peek) = some mark then pure [] else return [← read .sequence]

private def headerStart : Parser (List Syntax) :=
  (do variableWord; bindings read) <|> expressionUnless read ';'

private def header : Parser (List Syntax) := do
  let first ← headerStart read
  if ← acceptAnyWord ["of", "in"] then return first ++ [← read .sequence]
  else if ← acceptChar ';' then
    let test ← expressionUnless read ';'
    expectChar ';'
    let step ← expressionUnless read ')'
    pure (first ++ test ++ step)
  else pure first

private def loopOver : Parser (List Syntax) := do
  expectWord "for"
  discard (acceptWord "await")
  expectChar '('
  let parts ← header read
  expectChar ')'
  return parts ++ [← read .statement]

private def switchCase : Parser (Option Syntax) := do
  let start ← tokenStart
  let test ←
    if ← acceptWord "case" then (do return [← read .sequence])
    else if ← acceptWord "default" then pure []
    else return none
  expectChar ':'
  let body ← collect do
    if ["case", "default"].contains (← peekWord) || (← peek) = some '\x7d' then return none
    return some (← read .statement)
  return some (← groupFrom start (test ++ body))

private def switch : Parser (List Syntax) := do
  expectWord "switch"
  let value ← condition read
  expectChar '\x7b'
  let cases ← collect (switchCase read)
  expectChar '\x7d'
  pure (value :: cases)

private def handler : Parser (List Syntax) := do
  if !(← acceptWord "catch") then pure []
  else
    if ← acceptChar '(' then
      discard (pattern read)
      if (← peek) = some ':' then discard (typeClause read)
      expectChar ')'
    return [← block read]

private def guarded : Parser (List Syntax) := do
  expectWord "try"
  let body ← block read
  let handled ← handler read
  if ← acceptWord "finally" then return body :: handled ++ [← block read]
  else pure (body :: handled)

private def jump : Parser (List Syntax) := do
  let word ← peekWord
  if !(["return", "throw", "break", "continue", "debugger"].contains word) then failure
  discard (anyWord .other)
  (do terminator; pure []) <|> do
    let value ← read .sequence
    terminator
    pure [value]

private def labelled : Parser (List Syntax) := do
  let name ← identifier
  expectChar ':'
  return [name, ← read .statement]

private def control : Parser Syntax := do
  let start ← tokenStart
  let children ←
    branches read <|> loopBefore read <|> loopBehind read <|> loopOver read <|> switch read <|>
      guarded read <|> jump read <|> labelled read
  groupFrom start children

/-- Read a class or an export behind decorators. -/
private def decoratedStatement : Parser Syntax := do
  let start ← tokenStart
  let marks ← decorators read
  exportDeclaration read marks start <|> classDeclaration read marks

private def plainStatement : Parser Syntax := do
  let start ← tokenStart
  groupFrom start (← exportedValue read)

private def wordStatement : Parser Syntax := do
  let start ← tokenStart
  exportDeclaration read [] start <|>
    (do let children ← importDeclaration read; groupFrom start children) <|>
    declaration read <|> control read <|> plainStatement read

def statement : Parser Syntax := do
  let start ← tokenStart
  match ← peek with
  | none => failure
  | some ';' =>
    expectChar ';'
    groupFrom start []
  | some '\x7b' => block read
  | some '@' => decoratedStatement read
  | some _ => if (← peekWord).isEmpty then plainStatement read else wordStatement read

end RouteExplorer.Script.Parser
