import RouteExplorer.Script.Class

namespace RouteExplorer.Script.Parser

variable (read : Reading)

/-- Read an expression in braces inside a template's text, from behind the dollar sign. -/
private def templatePart (start : Nat) : Parser Syntax := do
  moveTo start
  expectChar '\x7b'
  let value ← read .sequence
  expectChar '\x7d'
  pure value

def template : Parser Syntax := do
  let start ← tokenStart
  if (← charAt start) != some '\x60' then failure
  let (parts, stop) ← repeatFrom (fun (parts, position) => do
    match ← charAt position with
    | none => failure
    | some '\x60' => return none
    | some '\\' => return some (parts, position + 2)
    | some character =>
      if character = '$' && (← charAt (position + 1)) = some '\x7b' then
        let part ← templatePart read (position + 1)
        return some (part :: parts, ← offset)
      else return some (parts, position + 1)) (([] : List Syntax), start + 1)
  moveTo (stop + 1)
  nodeFrom .other start parts.reverse

private def arrayLiteral : Parser Syntax := do
  let start ← tokenStart
  expectChar '['
  let children ← collect do
    discard (collect do if ← acceptChar ',' then return some () else return none)
    if (← peek) = some ']' then return none
    let element ← argument read
    if (← peek) != some ']' then expectChar ','
    return some element
  expectChar ']'
  groupFrom start children

private def propertyModifiers : List String := ["async", "get", "set"]

private def propertyMethod : Parser Syntax := do
  let start ← tokenStart
  discard (collect (modifier propertyModifiers))
  let name ← memberName read
  let parts ← functionTail read
  nodeFrom .methodDefinition start (name.inRole .name :: parts)

private def keyedProperty : Parser Syntax := do
  let start ← tokenStart
  let key ← memberName read
  expectChar ':'
  let value ← read (.assignment true)
  nodeFrom .pair start [key.inRole .key, value.inRole .value]

private def plainProperty : Parser Syntax := do
  let start ← tokenStart
  let name ← identifier
  let default_ ← if ← acceptChar '=' then (do return [← read (.assignment true)]) else pure []
  groupFrom start (name :: default_)

private def property : Parser Syntax := do
  if ← looksAt ['.', '.', '.'] then argument read
  else keyedProperty read <|> propertyMethod read <|> plainProperty read

private def objectLiteral : Parser Syntax := do
  let start ← tokenStart
  expectChar '\x7b'
  let children ← commaSeparated (property read) ['\x7d']
  nodeFrom .object start children

private def functionExpression : Parser Syntax := do
  let start ← tokenStart
  if ← acceptWord "async" then
    if ← lineEndsAhead then failure
  expectWord "function"
  discard (acceptChar '*')
  let name ← optionally identifier
  let parts ← functionTail read
  groupFrom start (name.toList ++ parts)

private def bracketed : Parser Syntax := do
  let start ← tokenStart
  expectChar '('
  let inner ← read .sequence
  expectChar ')'
  groupFrom start [inner]

private def valueWord : Parser Syntax := do
  if ["this", "super", "null", "true", "false", "import"].contains (← peekWord) then anyWord .other
  else identifier

private def constructed : Parser Syntax := do
  let start ← tokenStart
  let first ← read .primary
  let parts ← collect do
    if ← acceptChar '.' then
      discard (acceptChar '#')
      return some (← anyWord .memberName)
    else if ← acceptChar '[' then
      let index ← read .sequence
      expectChar ']'
      return some index
    else return none
  if parts.isEmpty then pure first else groupFrom start (first :: parts)

private def newExpression : Parser Syntax := do
  let start ← tokenStart
  expectWord "new"
  if ← acceptChar '.' then
    discard (anyWord .memberName)
    groupFrom start []
  else
    let callee ← constructed read
    discard (if (← peek) = some '<' then optionally (typeArguments read) else pure none)
    let values ← if (← peek) = some '(' then (do return [← callArguments read]) else pure []
    groupFrom start (callee :: values)

def primary : Parser Syntax := do
  match ← peek with
  | none => failure
  | some '"' | some '\'' => stringLiteral
  | some '\x60' => template read
  | some '(' => bracketed read
  | some '[' => arrayLiteral read
  | some '\x7b' => objectLiteral read
  | some '/' => regularExpression
  | some '@' => classExpression read
  | some '#' => memberName read
  | some '<' => if ← inMarkup then read .element else failure
  | some character =>
    if character.isDigit || character = '.' then numberLiteral
    else
      match ← peekWord with
      | "class" => classExpression read
      | "new" => newExpression read
      | "function" => functionExpression read
      | "async" => functionExpression read <|> identifier
      | _ => valueWord

/-- Whether generic arguments may end before the next token: a call or a template follows, or
something that no operand starts with. -/
private def endsTypeArguments : Parser Bool := do
  match ← peek with
  | none => pure true
  | some character =>
    if character = '(' || character = '\x60' then pure true
    else if character = '<' || character = '>' || character = '+' || character = '-' then pure false
    else if (← lineEndsAhead) then pure true
    else
      let word ← peekWord
      if ["as", "satisfies", "in", "instanceof"].contains word then pure true
      else
        pure (word.isEmpty && !character.isDigit &&
          !(['"', '\'', '[', '\x7b', '!', '~', '@', '#', '/'].contains character))

private def callTypeArguments : Parser Syntax := do
  let arguments_ ← typeArguments read
  if !(← endsTypeArguments) then failure
  pure arguments_

private def propertyBehindDot (object : Syntax) : Parser Syntax := do
  discard (acceptChar '#')
  let name ← anyWord .memberName
  nodeFrom .member object.start [object, name]

private def indexed (object : Syntax) : Parser Syntax := do
  expectChar '['
  let index ← read .sequence
  expectChar ']'
  groupFrom object.start [object, index]

private def called (callee : Syntax) : Parser Syntax := do
  let values ← callArguments read
  nodeFrom .call callee.start [callee.inRole .function, values.inRole .arguments]

private def behindOptionalDot (object : Syntax) : Parser Syntax := do
  match ← peek with
  | some '(' => called read object
  | some '[' => indexed read object
  | some '<' =>
    discard (typeArguments read)
    called read object
  | _ => propertyBehindDot object

private def suffix (operand : Syntax) : Parser (Option Syntax) := do
  match ← peek with
  | some '.' =>
    expectChar '.'
    return some (← propertyBehindDot operand)
  | some '?' =>
    if !(← accept ['?', '.']) then return none
    if (← charAt (← offset)).any Char.isDigit then failure
    return some (← behindOptionalDot read operand)
  | some '[' => return some (← indexed read operand)
  | some '(' => return some (← called read operand)
  | some '\x60' =>
    let text ← template read
    return some (← groupFrom operand.start [operand, text])
  | some '!' =>
    if (← looksAt ['!', '=']) || (← lineEndsAhead) then return none
    expectChar '!'
    return some (← groupFrom operand.start [operand])
  | some '<' =>
    match ← optionally (callTypeArguments read) with
    | some typed =>
      if (← peek) = some '(' then
        let values ← callArguments read
        return some (← nodeFrom .call operand.start
          [operand.inRole .function, typed, values.inRole .arguments])
      else return some (← groupFrom operand.start [operand, typed])
    | none => return none
  | _ => return none

def leftHand : Parser Syntax := do
  let first ← read .primary
  repeatFrom (fun operand => do return (← optionally (suffix read operand)).join) first

private def prefixMarks : List (List Char) := [['+', '+'], ['-', '-'], ['!'], ['~'], ['+'], ['-']]

private def prefixWords : List String := ["typeof", "void", "delete", "await"]

private def prefixed (start : Nat) : Parser Syntax := do
  let operand ← read .unary
  groupFrom start [operand]

private def typeAssertion : Parser Syntax := do
  let start ← tokenStart
  if ← inMarkup then failure
  discard (typeArguments read)
  prefixed read start

def unary : Parser Syntax := do
  let start ← tokenStart
  if ← acceptAny prefixMarks then prefixed read start
  else if prefixWords.contains (← peekWord) then
    (do discard (anyWord .other); prefixed read start) <|> read .leftHand
  else if (← peek) = some '<' then typeAssertion read <|> read .leftHand
  else
    let operand ← read .leftHand
    if ← lineEndsAhead then pure operand
    else if ← acceptAny [['+', '+'], ['-', '-']] then groupFrom start [operand]
    else pure operand

/-- Marks that store a value, the longest first. -/
private def storingMarks : List (List Char) :=
  [">>>=", "**=", "&&=", "||=", "??=", ">>=", "<<=", "+=", "-=", "*=", "/=", "%=", "&=", "|=", "^="].map
    String.toList

private def betweenMarks : List (List Char) :=
  ["===", "!==", ">>>", "**", "==", "!=", "<=", ">=", "<<", ">>", "&&", "||", "??", "+", "-", "*", "/",
    "%", "&", "|", "^", "<", ">"].map String.toList

/-- The two outcomes of a condition. The first cannot have a result type where the colon would be
taken for the one between the outcomes. -/
private def outcomes (arrowTypes : Bool) : Parser (List Syntax) := do
  if ← looksAt ['?', '?'] then failure
  expectChar '?'
  (do
    let first ← read (.assignment false)
    expectChar ':'
    let second ← read (.assignment arrowTypes)
    pure [first, second]) <|> do
    let first ← read (.assignment true)
    expectChar ':'
    let second ← read (.assignment arrowTypes)
    pure [first, second]

private def stored (arrowTypes : Bool) : Parser (List Syntax) := do
  if !(← acceptAny storingMarks) then
    if (← looksAt ['=', '=']) || (← looksAt ['=', '>']) then failure
    expectChar '='
  return [← read (.assignment arrowTypes)]

private def ascribed : Parser (List Syntax) := do
  if ← lineEndsAhead then failure
  if !(← acceptAnyWord ["as", "satisfies"]) then failure
  if !(← acceptWord "const") then discard (read .type)
  pure []

private def operated : Parser (List Syntax) := do
  if (← looksAt ['+', '+']) || (← looksAt ['-', '-']) then failure
  if !(← acceptAny betweenMarks) then
    if !(← acceptAnyWord ["in", "instanceof"]) then failure
  return [← read .unary]

private def operation (arrowTypes : Bool) : Parser Syntax := do
  let start ← tokenStart
  let first ← read .unary
  let more ← collect (optionally
    (stored read arrowTypes <|> outcomes read arrowTypes <|> ascribed read <|> operated read))
  if more.isEmpty then pure first else groupFrom start (first :: more.flatten)

private def arrowBody (arrowTypes : Bool) : Parser Syntax := do
  expect ['=', '>']
  if (← peek) = some '\x7b' then block read else read (.assignment arrowTypes)

private def arrowInputs (arrowTypes : Bool) : Parser (List Syntax) := do
  match ← peek with
  | some '(' | some '<' =>
    optionalTypeParameters read
    let inputs ← parameters read
    if arrowTypes && (← peek) = some ':' then discard (typeClause read)
    pure [inputs]
  | _ => return [← identifier]

private def arrowFunction (arrowTypes : Bool) : Parser Syntax := do
  let start ← tokenStart
  let parts ← (do
      expectWord "async"
      if ← lineEndsAhead then failure
      let inputs ← arrowInputs read arrowTypes
      return inputs ++ [← arrowBody read arrowTypes]) <|> do
      let inputs ← arrowInputs read arrowTypes
      return inputs ++ [← arrowBody read arrowTypes]
  groupFrom start parts

private def yielded (arrowTypes : Bool) : Parser Syntax := do
  let start ← tokenStart
  expectWord "yield"
  if ← lineEndsAhead then groupFrom start []
  else
    discard (acceptChar '*')
    let value ← optionally (read (.assignment arrowTypes))
    groupFrom start value.toList

/-- Generic parameters that no element's tag can be taken for. -/
private def genericArrowAhead : Parser Bool := succeeds do
  expectChar '<'
  discard (anyWord .other)
  if (← peek) != some ',' && (← peekWord) != "extends" then failure

def assignment (arrowTypes : Bool) : Parser Syntax := do
  let arrow := arrowFunction read arrowTypes
  let plain := operation read arrowTypes
  if (← peekWord) = "yield" then yielded read arrowTypes
  else if (← inMarkup) && (← peek) = some '<' && !(← genericArrowAhead) then plain <|> arrow
  else arrow <|> plain

def sequence : Parser Syntax := do
  let start ← tokenStart
  let first ← read (.assignment true)
  let more ← collect do
    if ← acceptChar ',' then return some (← read (.assignment true)) else return none
  if more.isEmpty then pure first else groupFrom start (first :: more)

end RouteExplorer.Script.Parser
