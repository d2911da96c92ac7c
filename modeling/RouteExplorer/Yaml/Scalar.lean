import RouteExplorer.Yaml.Cursor

namespace RouteExplorer.Yaml

namespace Reader

structure Gap where
  /-- A line has ended, so that blanks no longer count. -/
  lineEnded : Bool
  blanks : List Char
  firstBreak : Option Char
  laterBreaks : List Char

/-- The gap before anything is read of it, perhaps behind a line end that does not count. -/
def Gap.start (lineEnded : Bool) : Gap := ⟨lineEnded, [], none, []⟩

def Gap.text (gap : Gap) : List Char :=
  if gap.lineEnded then
    match gap.firstBreak with
    | some '\n' => if gap.laterBreaks.isEmpty then [' '] else gap.laterBreaks
    | some separator => separator :: gap.laterBreaks
    | none => gap.laterBreaks
  else gap.blanks

/-- Read blanks and line ends. A tab is refused where a line must still be indented. -/
def gap (lineEnded : Bool) (indent : Nat) : Reader Gap :=
  repeatFrom (fun gap => do
    match ← peek with
    | none => return none
    | some character =>
      if isBlank character then
        if gap.lineEnded && character == '\t' && (← column) < indent then failure
        skip 1
        return some (if gap.lineEnded then gap
          else { gap with blanks := gap.blanks ++ [character] })
      else match ← takeBreak with
        | none => return none
        | some lineEnd =>
          return some (if gap.lineEnded
            then { gap with laterBreaks := gap.laterBreaks ++ [lineEnd] }
            else ⟨true, [], some lineEnd, []⟩)) (Gap.start lineEnded)

def isFlowMark (character : Char) : Bool := [',', '[', ']', '\x7b', '\x7d'].contains character

def plainPart (inFlow : Bool) : List Char → Option (List Char)
  | [] => some []
  | character :: rest =>
    if isBlank character || isBreak character then some []
    else if inFlow && isFlowMark character then some []
    else if character == ':' && startsBlank rest then some []
    else if inFlow && character == ':' && rest.head?.any (fun next => isFlowMark next || next == '?')
    then none
    else (plainPart inFlow rest).map (character :: ·)

/-- Read a plain scalar whose later lines are indented; whether a line has ended behind it. -/
def plainScalar (indent : Nat) (inFlow : Bool) : Reader (String × Bool) := do
  let (text, behind, _) ← repeatFrom (fun (text, before, more) => do
    if !more || (← atDocumentMark) || (← nextIs (· == '#')) then return none
    let part ← plainPart inFlow (← rest)
    if part.isEmpty then return none
    skip part.length
    let behind ← gap false indent
    let more := startsBlank (← rest) == false && (inFlow || indent ≤ (← column))
    return some (text ++ before.text ++ part, behind, more))
    (([] : List Char), Gap.start false, true)
  pure (String.ofList text, behind.lineEnded)

def hexValue? (digits : List Char) : Option Nat :=
  digits.foldlM (fun value digit =>
    if digit.isDigit then some (value * 16 + (digit.toNat - '0'.toNat))
    else if 'a' ≤ digit ∧ digit ≤ 'f' then some (value * 16 + (digit.toNat - 'a'.toNat + 10))
    else if 'A' ≤ digit ∧ digit ≤ 'F' then some (value * 16 + (digit.toNat - 'A'.toNat + 10))
    else none) 0

def character? (code : Nat) : Option Char :=
  if (Char.ofNat code).toNat = code then some (Char.ofNat code) else none

def escaped? (letter : Char) : Option Char :=
  [('0', '\x00'), ('a', '\x07'), ('b', '\x08'), ('t', '\t'), ('\t', '\t'), ('n', '\n'),
    ('v', '\x0b'), ('f', '\x0c'), ('r', '\r'), ('e', '\x1b'), (' ', ' '), ('"', '"'), ('/', '/'),
    ('\\', '\\'), ('N', '\u0085'), ('_', '\u00a0'), ('L', '\u2028'), ('P', '\u2029')].lookup letter

def codeLength? (letter : Char) : Option Nat :=
  [('x', 2), ('u', 4), ('U', 8)].lookup letter

def escape : Reader Char := do
  let letter ← (← peek : Option Char)
  skip 1
  match codeLength? letter with
  | none => (escaped? letter : Option Char)
  | some length =>
    let digits := (← rest).take length
    if digits.length < length then failure
    skip length
    (hexValue? digits).bind character?

/-- Read the characters of a quoted scalar up to its closing quote, a blank or a line end; whether
an escaped line end stopped it. -/
def quotedPart (quote : Char) : Reader (List Char × Bool) :=
  repeatFrom (fun (text, lineEscaped) => do
    if lineEscaped then return none
    match ← rest with
    | [] => return none
    | character :: following =>
      if isBlank character || isBreak character then return none
      else if character == quote then
        if quote == '\'' && following.head? == some '\'' then
          skip 2
          return some (text ++ ['\''], false)
        return none
      else if quote == '"' && character == '\\' then
        skip 1
        if (← takeBreak).isSome then return some (text, true)
        return some (text ++ [← escape], false)
      else
        skip 1
        return some (text ++ [character], false)) (([] : List Char), false)

def quotedScalar (quote : Char) : Reader String := do
  let (text, _) ← repeatFrom (fun (text, more) => do
    if !more then return none
    if (← atDocumentMark) || (← peek).isNone then failure
    let (part, lineEscaped) ← quotedPart quote
    if (← peek) == some quote then
      skip 1
      return some (text ++ part, false)
    let behind ← gap lineEscaped 0
    return some (text ++ part ++ behind.text, true)) (([] : List Char), true)
  pure (String.ofList text)

/-- What becomes of the line ends behind a block. -/
inductive Chomping where
  | strip
  | clip
  | keep
deriving DecidableEq, Repr

def chomping : Reader (Option Chomping) := do
  match ← peek with
  | some '+' => skip 1; return some .keep
  | some '-' => skip 1; return some .strip
  | _ => return none

def increment : Reader (Option Nat) := do
  match ← peek with
  | some digit =>
    if digit == '0' then failure
    if digit.isDigit then
      skip 1
      return some (digit.toNat - '0'.toNat)
    return none
  | none => return none

/-- Read the marks behind the first one of a block, in either order. -/
def blockHeader : Reader (Chomping × Option Nat) := do
  match ← chomping with
  | some kind => return (kind, ← increment)
  | none =>
    let more ← increment
    match more with
    | some _ => return ((← chomping).getD .clip, more)
    | none => return (.clip, none)

/-- Read blank lines and the indentation of the next line, which is at most the given one; the line
ends and the widest indentation. -/
def blankLines (indent : Option Nat) : Reader (List Char × Nat) :=
  repeatFrom (fun (breaks, widest) => do
    let start ← column
    let spaces := ((← rest).takeWhile (· == ' ')).length
    skip (match indent with | some limit => min spaces (limit - start) | none => spaces)
    let widest := max widest (← column)
    if (← nextIs (· == '\t')) && indent.all ((← column) < ·) then failure
    match ← takeBreak with
    | some lineEnd => return some (breaks ++ [lineEnd], widest)
    | none => return if start < (← column) then some (breaks, widest) else none)
    (([] : List Char), 0)

/-- What is known of a block behind one of its lines. -/
structure BlockProgress where
  text : List Char
  /-- The end of the last line. -/
  lineEnd : List Char
  blankLines : List Char
  /-- The last line begins with a blank. -/
  blankStart : Bool

/-- The text of a block with the ends of its lines up to the next line. -/
def BlockProgress.joined (progress : BlockProgress) (folded nextIsBlank : Bool) : List Char :=
  if folded && progress.lineEnd == ['\n'] && !progress.blankStart && !nextIsBlank then
    progress.text ++ (if progress.blankLines.isEmpty then [' '] else progress.blankLines)
  else progress.text ++ progress.lineEnd ++ progress.blankLines

/-- Read a block of lines behind its first mark. Its lines are indented as its header says, or else
as the first line is that is not blank. -/
def blockScalar (leastIndent : Nat) (folded : Bool) : Reader String := do
  let (ending, more) ← blockHeader
  finishLine
  let given := more.map (leastIndent - 1 + ·)
  let (breaks, widest) ← blankLines given
  let indent := given.getD (max widest (max leastIndent 1))
  let result ← repeatFrom (fun (progress : BlockProgress) => do
    if (← column) != indent || (← peek).isNone then return none
    let blankStart ← nextIs isBlank
    let line ← takeWhile (!isBreak ·)
    let lineEnd := (← takeBreak).toList
    let (breaks, _) ← blankLines (some indent)
    return some ⟨progress.joined folded blankStart ++ line, lineEnd, breaks, blankStart⟩)
    ⟨[], [], breaks, false⟩
  pure (String.ofList (match ending with
    | .strip => result.text
    | .clip => result.text ++ result.lineEnd
    | .keep => result.text ++ result.lineEnd ++ result.blankLines))

end Reader

end RouteExplorer.Yaml
