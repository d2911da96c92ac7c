namespace RouteExplorer.Json

inductive Reason where
  | endInList | endInObject | endInString | endInValue
  | expectedColon | expectedCommaOrBracket | expectedCommaOrBrace | expectedIdent | expectedValue
  | invalidEscape | invalidNumber | numberOutOfRange | controlInString | keyNotString
  | loneSurrogate | surrogateCutShort | trailingComma | trailingCharacters | tooDeep
  /-- The text is JSON, but not of the shape that the reader wants. -/
  | unfit (explanation : String)
deriving DecidableEq, Repr

def Reason.message : Reason → String
  | .endInList => "EOF while parsing a list"
  | .endInObject => "EOF while parsing an object"
  | .endInString => "EOF while parsing a string"
  | .endInValue => "EOF while parsing a value"
  | .expectedColon => "expected `:`"
  | .expectedCommaOrBracket => "expected `,` or `]`"
  | .expectedCommaOrBrace => "expected `,` or `\x7d`"
  | .expectedIdent => "expected ident"
  | .expectedValue => "expected value"
  | .invalidEscape => "invalid escape"
  | .invalidNumber => "invalid number"
  | .numberOutOfRange => "number out of range"
  | .controlInString => "control character (\\u0000-\\u001F) found while parsing a string"
  | .keyNotString => "key must be a string"
  | .loneSurrogate => "lone leading surrogate in hex escape"
  | .surrogateCutShort => "unexpected end of hex escape"
  | .trailingComma => "trailing comma"
  | .trailingCharacters => "trailing characters"
  | .tooDeep => "recursion limit exceeded"
  | .unfit explanation => explanation

/-- A reason and the number of bytes read when it was found. -/
structure Fault where
  reason : Reason
  offset : Nat
deriving DecidableEq, Repr

/-- A line counted from one and a number of bytes within it. -/
structure Position where
  line : Nat
  column : Nat
deriving DecidableEq, Repr

def Position.advance (position : Position) : Nat → List Char → Position
  | 0, _ | _, [] => position
  | count + 1, character :: rest =>
    if character = '\n' then Position.advance ⟨position.line + 1, 0⟩ count rest
    else
      let size := min character.utf8Size (count + 1)
      Position.advance { position with column := position.column + size } (count + 1 - size) rest
termination_by _ rest => rest.length

def Position.ofOffset (text : List Char) (offset : Nat) : Position :=
  Position.advance ⟨1, 0⟩ offset text

def Fault.message (fault : Fault) (text : List Char) : String :=
  let position := Position.ofOffset text fault.offset
  s!"{fault.reason.message} at line {position.line} column {position.column}"

end RouteExplorer.Json
