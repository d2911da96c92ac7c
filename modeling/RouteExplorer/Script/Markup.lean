import RouteExplorer.Script.Expression

namespace RouteExplorer.Script.Parser

variable (read : Reading)

private def isTagNamePart (character : Char) : Bool :=
  isWordPart character || character == '-' || character == ':' || character == '.'

private def tagNameEnd (source : Source) : Nat → Nat → Nat
  | 0, offset => offset
  | steps + 1, offset =>
    match source.characters[offset]? with
    | some character => if isTagNamePart character then tagNameEnd source steps (offset + 1) else offset
    | none => offset

private def tagName : Parser Unit := do
  let start ← tokenStart
  let stop ← fun source position => some (tagNameEnd source source.characters.size start, position)
  if stop = start then failure
  moveTo stop

/-- Read an expression in braces, which may be spread or missing. -/
private def braced : Parser (List Syntax) := do
  expectChar '\x7b'
  discard (accept ['.', '.', '.'])
  if ← acceptChar '\x7d' then pure []
  else
    let value ← read .sequence
    expectChar '\x7d'
    pure [value]

/-- Read a quoted text, in which nothing is escaped. -/
private def attributeText (quote : Char) : Parser Unit := do
  expectChar quote
  moveTo (← fun source position =>
    let rest := source.slice position source.characters.size
    let text := rest.takeWhile (· != quote)
    if text.length = rest.length then none else some (position + text.length + 1, position))

private def attribute_ : Parser (List Syntax) := do
  if (← peek) = some '\x7b' then braced read
  else
    tagName
    if !(← acceptChar '=') then pure []
    else
      match ← peek with
      | some '\x7b' => braced read
      | some '<' => return [← read .element]
      | some quote =>
        if quote != '"' && quote != '\'' then failure
        attributeText quote
        pure []
      | none => failure

private def markupTextEnd (source : Source) : Nat → Nat → Nat
  | 0, offset => offset
  | steps + 1, offset =>
    match source.characters[offset]? with
    | some '<' | some '\x7b' | none => offset
    | some _ => markupTextEnd source steps (offset + 1)

private def contents : Parser (List Syntax) := do
  let found ← collect do
    let start ← offset
    moveTo (← fun source position => some (markupTextEnd source source.characters.size start, position))
    match ← charAt (← offset) with
    | some '\x7b' => return some (← braced read)
    | some '<' =>
      if (← succeeds (do expectChar '<'; expectChar '/')) then return none
      else return some [← read .element]
    | _ => failure
  pure found.flatten

private def closingTag : Parser Unit := do
  expectChar '<'
  expectChar '/'
  if !(← acceptChar '>') then
    tagName
    expectChar '>'

def element : Parser Syntax := do
  let start ← tokenStart
  expectChar '<'
  if ← acceptChar '>' then
    let inner ← contents read
    closingTag
    groupFrom start inner
  else
    tagName
    if (← peek) = some '<' then discard (typeArguments read)
    let attributes ← collect do
      if (← peek) = some '/' || (← peek) = some '>' then return none
      return some (← attribute_ read)
    if ← acceptChar '/' then
      expectChar '>'
      groupFrom start attributes.flatten
    else
      expectChar '>'
      let inner ← contents read
      closingTag
      groupFrom start (attributes.flatten ++ inner)

end RouteExplorer.Script.Parser
