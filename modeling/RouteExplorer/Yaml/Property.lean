import RouteExplorer.Yaml.Cursor
import RouteExplorer.Yaml.Token

namespace RouteExplorer.Yaml

namespace Reader

def anchorName : Reader String := do
  let name ← takeWhile isNameCharacter
  let following ← rest
  let ends := startsBlank following ||
    following.head?.any (['?', ':', ',', ']', '\x7d', '%', '@', '\x60'].contains ·)
  if name.isEmpty || !ends then failure
  pure (String.ofList name)

/-- Characters of the name of a tag; written in full or declared it may also hold flow marks. -/
def isTagCharacter (full : Bool) (character : Char) : Bool :=
  isNameCharacter character ||
    [';', '/', '?', ':', '@', '&', '=', '+', '$', '.', '%', '!', '~', '*', '\'', '(', ')'].contains
      character ||
    (full && [',', '[', ']'].contains character)

private def byteValue? (high low : Char) : Option Nat := do
  let digit (character : Char) : Option Nat :=
    ("0123456789abcdef".toList).idxOf? character.toLower
  return (← digit high) * 16 + (← digit low)

/-- The number of bytes of a character, by its first byte. -/
private def byteCount? (first : Nat) : Option Nat :=
  if first < 0x80 then some 1
  else if first / 0x20 = 6 then some 2
  else if first / 0x10 = 14 then some 3
  else if first / 8 = 30 then some 4
  else none

/-- Bytes that are written as codes make up whole characters; `open` bytes of one are missing. -/
def hasWholeEscapes : Nat → List Char → Bool
  | missing, '%' :: high :: low :: rest =>
    match byteValue? high low, missing with
    | none, _ => false
    | some first, 0 =>
      match byteCount? first with
      | some count => hasWholeEscapes (count - 1) rest
      | none => false
    | some later, missing + 1 => later / 0x40 = 2 && hasWholeEscapes missing rest
  | missing, character :: rest => character != '%' && missing = 0 && hasWholeEscapes 0 rest
  | missing, [] => missing = 0

/-- Read the name of a tag. It may be empty where a handle has begun it. -/
def tagName (full begun : Bool) : Reader Unit := do
  let name ← takeWhile (isTagCharacter full)
  if !hasWholeEscapes 0 name || (name.isEmpty && !begun) then failure

/-- Read a handle: an exclamation mark, perhaps a name, perhaps another mark. -/
def tagHandle : Reader (List Char) := do
  expect '!'
  let name ← takeWhile isNameCharacter
  if ← nextIs (· == '!') then
    skip 1
    return '!' :: name ++ ['!']
  return '!' :: name

def isClosedHandle (handle : List Char) : Bool :=
  1 < handle.length && handle.getLast? == some '!'

/-- Read a tag. In a flow collection a comma may follow. -/
def tag (inFlow : Bool) : Reader Token := do
  let result ←
    if (← rest)[1]? == some '<' then do
      skip 2
      tagName true false
      expect '>'
      pure (Token.tag none)
    else do
      let handle ← tagHandle
      tagName false (!isClosedHandle handle)
      pure (Token.tag (if isClosedHandle handle then some (String.ofList handle) else none))
  if !startsBlank (← rest) && !(inFlow && (← nextIs (· == ','))) then failure
  pure result

private def versionPart : Reader Nat := do
  let digits ← takeWhile Char.isDigit
  if digits.isEmpty || 9 < digits.length then failure
  pure (digits.foldl (fun value digit => value * 10 + (digit.toNat - '0'.toNat)) 0)

/-- Read a directive: a version that is understood, or a handle of tags. -/
def directive : Reader Token := do
  expect '%'
  let name ← takeWhile isNameCharacter
  if !startsBlank (← rest) then failure
  let _ ← takeWhile isBlank
  let result ←
    if name = ['Y', 'A', 'M', 'L'] then do
      let major ← versionPart
      expect '.'
      let minor ← versionPart
      if major != 1 || (minor != 1 && minor != 2) then failure
      pure Token.version
    else if name = ['T', 'A', 'G'] then do
      let handle ← tagHandle
      if !isClosedHandle handle && handle != ['!'] then failure
      if !(← nextIs isBlank) then failure
      let _ ← takeWhile isBlank
      tagName true false
      if !startsBlank (← rest) then failure
      pure (Token.handle (String.ofList handle))
    else failure
  finishLine
  pure result

end Reader

end RouteExplorer.Yaml
