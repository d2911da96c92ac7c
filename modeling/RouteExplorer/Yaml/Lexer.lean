import RouteExplorer.Yaml.Property
import RouteExplorer.Yaml.Scalar

/-!
The tokens of a text. A key is known only by the colon behind it, so that its mark is put before
tokens that are read already; and a line that is indented less closes the collections around it.
-/
namespace RouteExplorer.Yaml

structure KeyPlace where
  /-- Nothing but a key can stand here. -/
  required : Bool
  /-- The number of tokens before it. -/
  tokens : Nat
  index : Nat
  line : Nat
  column : Nat

structure Lexer where
  cursor : Cursor
  tokens : Array Token
  /-- The columns of the open block collections, innermost first. -/
  indents : List Nat
  /-- A key may begin here. -/
  keyAllowed : Bool
  /-- Where the key of the collection at hand may have begun. -/
  keyPlace : Option KeyPlace
  /-- The same for the collections around the open flow collections, innermost first. -/
  outerKeyPlaces : List (Option KeyPlace)

namespace Lexer

def start (text : List Char) : Lexer := ⟨.start text, #[], [], true, none, []⟩

def inFlow (lexer : Lexer) : Bool := !lexer.outerKeyPlaces.isEmpty

/-- The least column of what belongs to the innermost block collection and is not an entry of it. -/
def leastIndent (lexer : Lexer) : Nat :=
  match lexer.indents with
  | column :: _ => column + 1
  | [] => 0

def push (lexer : Lexer) (token : Token) : Lexer :=
  { lexer with tokens := lexer.tokens.push token }

def read {α : Type} (lexer : Lexer) (reader : Reader α) : Option (α × Lexer) :=
  (reader lexer.cursor).map fun (result, cursor) => (result, { lexer with cursor := cursor })

def skip (lexer : Lexer) (reader : Reader Unit) : Option Lexer := (lexer.read reader).map (·.2)

/-- Close the block collections that begin behind a column. -/
def unrollTo (lexer : Lexer) (reaches : Nat → Bool) : Lexer :=
  if lexer.inFlow then lexer
  else
    let closed := lexer.indents.takeWhile reaches
    { lexer with
      tokens := lexer.tokens ++ (closed.map fun _ => Token.blockEnd)
      indents := lexer.indents.dropWhile reaches }

def unrollAll (lexer : Lexer) : Lexer := lexer.unrollTo fun _ => true

/-- Open a block collection at a column unless one is open there; its token goes to a place. -/
def rollTo (lexer : Lexer) (column : Nat) (place : Nat) (token : Token) : Lexer :=
  if !lexer.inFlow && lexer.leastIndent ≤ column then
    { lexer with
      tokens := lexer.tokens.take place ++ #[token] ++ lexer.tokens.drop place
      indents := column :: lexer.indents }
  else lexer

def isStale (lexer : Lexer) (place : KeyPlace) : Bool :=
  place.line < lexer.cursor.line || place.index + 1024 < lexer.cursor.index

/-- Forget a place where no key can be any more. A key that is required is missed. -/
def freshKeyPlace? (lexer : Lexer) : Option KeyPlace → Option (Option KeyPlace)
  | some place =>
    if lexer.isStale place then if place.required then none else some none else some (some place)
  | none => some none

def dropStale? (lexer : Lexer) : Option Lexer := do
  return { lexer with
    keyPlace := ← lexer.freshKeyPlace? lexer.keyPlace
    outerKeyPlaces := ← lexer.outerKeyPlaces.mapM lexer.freshKeyPlace? }

def dropKey? (lexer : Lexer) : Option Lexer :=
  if lexer.keyPlace.any (·.required) then none else some { lexer with keyPlace := none }

/-- What follows may be a key, if one may begin here. -/
def markKey? (lexer : Lexer) : Option Lexer := do
  if !lexer.keyAllowed then return lexer
  let lexer ← lexer.dropKey?
  let cursor := lexer.cursor
  let required := !lexer.inFlow && lexer.indents.head? == some cursor.column
  return { lexer with
    keyPlace := some ⟨required, lexer.tokens.size, cursor.index, cursor.line, cursor.column⟩ }

def allowKey (lexer : Lexer) (keyAllowed : Bool) : Lexer :=
  { lexer with keyAllowed := keyAllowed }

/-- A directive or a mark between documents closes all that is open. -/
def betweenDocuments? (lexer : Lexer) (reader : Reader Token) : Option Lexer := do
  let lexer ← lexer.unrollAll.dropKey?
  let (token, lexer) ← (lexer.allowKey false).read reader
  return lexer.push token

def mark? (lexer : Lexer) (length : Nat) (token : Token) : Option Lexer := do
  return (← lexer.skip (.skip length)).push token

/-- The bracket that opens a flow collection, which may be a key as a whole. -/
def openFlow? (lexer : Lexer) (token : Token) : Option Lexer := do
  let lexer ← lexer.markKey?
  { lexer with
    keyPlace := none
    outerKeyPlaces := lexer.keyPlace :: lexer.outerKeyPlaces
    keyAllowed := true }.mark? 1 token

def closeFlow? (lexer : Lexer) (token : Token) : Option Lexer := do
  let lexer ← lexer.dropKey?
  { lexer with
    keyPlace := lexer.outerKeyPlaces.headD lexer.keyPlace
    outerKeyPlaces := lexer.outerKeyPlaces.tail
    keyAllowed := false }.mark? 1 token

def flowEntry? (lexer : Lexer) : Option Lexer := do
  ((← lexer.dropKey?).allowKey true).mark? 1 .flowEntry

/-- Open a block collection here unless one is open, where a key or an entry may begin. -/
def rollHere? (lexer : Lexer) (token : Token) : Option Lexer :=
  if lexer.inFlow then some lexer
  else if lexer.keyAllowed then
    some (lexer.rollTo lexer.cursor.column lexer.tokens.size token)
  else none

def blockEntry? (lexer : Lexer) : Option Lexer := do
  let lexer ← lexer.rollHere? .blockSequenceStart
  ((← lexer.dropKey?).allowKey true).mark? 1 .blockEntry

def key? (lexer : Lexer) : Option Lexer := do
  let lexer ← lexer.rollHere? .blockMappingStart
  ((← lexer.dropKey?).allowKey !lexer.inFlow).mark? 1 .key

/-- The mark between a key and its value. It makes a key of what was read last, if that may be one. -/
def value? (lexer : Lexer) : Option Lexer := do
  match lexer.keyPlace with
  | some place =>
    let tokens := lexer.tokens.take place.tokens ++ #[.key] ++ lexer.tokens.drop place.tokens
    let lexer := { lexer with tokens := tokens, keyPlace := none, keyAllowed := false }
    (lexer.rollTo place.column place.tokens .blockMappingStart).mark? 1 .value
  | none =>
    let lexer ← lexer.rollHere? .blockMappingStart
    (lexer.allowKey !lexer.inFlow).mark? 1 .value

/-- What can be a key: an alias, a property of a node or a scalar. -/
def content? (lexer : Lexer) (reader : Reader Token) : Option Lexer := do
  let lexer ← lexer.markKey?
  let (token, lexer) ← (lexer.allowKey false).read reader
  return lexer.push token

/-- A plain scalar. Behind its last line a key may begin again. -/
def plain? (lexer : Lexer) : Option Lexer := do
  let lexer ← lexer.markKey?
  let ((text, lineEnded), lexer) ← lexer.read (.plainScalar lexer.leastIndent lexer.inFlow)
  return (lexer.allowKey lineEnded).push (.scalar .plain text)

def block? (lexer : Lexer) (folded : Bool) : Option Lexer := do
  let lexer ← lexer.dropKey?
  let (text, lexer) ← lexer.read (do
    Reader.skip 1
    Reader.blockScalar lexer.leastIndent folded)
  return (lexer.allowKey true).push (.scalar .block text)

def quoted? (lexer : Lexer) (quote : Char) : Option Lexer :=
  lexer.content? (do
    Reader.skip 1
    return .scalar .quoted (← Reader.quotedScalar quote))

private def isIndicator (character : Char) : Bool :=
  ['-', '?', ':', ',', '[', ']', '\x7b', '\x7d', '#', '&', '*', '!', '|', '>', '\'', '"', '%', '@',
    '\x60'].contains character

def token? (lexer : Lexer) (character : Char) (following : List Char) : Option Lexer :=
  let standsAlone := startsBlank following
  let named (make : String → Token) : Option Lexer :=
    lexer.content? (do
      Reader.skip 1
      return make (← Reader.anchorName))
  match character, lexer.inFlow with
  | '[', _ => lexer.openFlow? .flowSequenceStart
  | '\x7b', _ => lexer.openFlow? .flowMappingStart
  | ']', _ => lexer.closeFlow? .flowSequenceEnd
  | '\x7d', _ => lexer.closeFlow? .flowMappingEnd
  | ',', _ => lexer.flowEntry?
  | '*', _ => named .alias
  | '&', _ => named .anchor
  | '!', inFlow => lexer.content? (.tag inFlow)
  | '|', false => lexer.block? false
  | '>', false => lexer.block? true
  | '\'', _ => lexer.quoted? '\''
  | '"', _ => lexer.quoted? '"'
  | '-', _ =>
    if standsAlone then lexer.blockEntry? else lexer.plain?
  | '?', inFlow => if inFlow || standsAlone then lexer.key? else lexer.plain?
  | ':', inFlow => if inFlow || standsAlone then lexer.value? else lexer.plain?
  | other, _ => if isIndicator other || isBlank other then none else lexer.plain?

/-- Read blanks, comments and line ends before the next token. A tab counts as a blank where it cannot
be taken for indentation. -/
def toNextToken (lexer : Lexer) : Reader Bool :=
  Reader.repeatFrom (fun keyAllowed => do
    let _ ← Reader.takeWhile fun character =>
      character == ' ' || (character == '\t' && (lexer.inFlow || !keyAllowed))
    if ← Reader.nextIs (· == '#') then
      let _ ← Reader.takeWhile (!isBreak ·)
    if (← Reader.takeBreak).isSome then return some (keyAllowed || !lexer.inFlow)
    return none) lexer.keyAllowed

/-- Read the next token; nothing at the end of the text. -/
def step? (lexer : Lexer) : Option (Option Lexer) := do
  let (keyAllowed, lexer) ← lexer.read lexer.toNextToken
  let lexer ← (lexer.allowKey keyAllowed).dropStale?
  let column := lexer.cursor.column
  let lexer := lexer.unrollTo fun indent => column < indent
  let here (mark : List Char) : Bool :=
    ((Reader.atMark mark).run' lexer.cursor).getD false
  match lexer.cursor.rest with
  | [] => return none
  | character :: following =>
    if column = 0 && character == '%' then lexer.betweenDocuments? .directive
    else if here ['-', '-', '-'] then
      lexer.betweenDocuments? (do Reader.skip 3; return .documentStart)
    else if here ['.', '.', '.'] then
      lexer.betweenDocuments? (do Reader.skip 3; return .documentEnd)
    else lexer.token? character following

private def runUpTo : Nat → Lexer → Option Lexer
  | 0, lexer => some lexer
  | steps + 1, lexer => do
    match ← lexer.step? with
    | some next => runUpTo steps next
    | none => lexer.unrollAll.dropKey?

end Lexer

/-- The tokens of a text, whose byte order mark does not count. -/
def Token.ofText? (text : String) : Option (List Token) := do
  let characters := match text.toList with
    | '\uFEFF' :: rest => rest
    | all => all
  if !characters.all isPrintable then none
  let lexer ← Lexer.runUpTo (characters.length + 1) (.start characters)
  return lexer.tokens.toList

end RouteExplorer.Yaml
