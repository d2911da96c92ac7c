import RouteExplorer.Glob.Pattern

/-!
Reading a glob pattern. The reader walks over the characters with the branch that is being read,
innermost group first, and the character before the current one, which decides what `**` means.
-/
namespace RouteExplorer.Glob

structure OpenGroup where
  /-- The tokens before the group, last one first. -/
  before : List Token
  /-- The finished branches, last one first. -/
  branches : List (List Token)

/-- What has been read: the open groups, innermost first, and the tokens of the current branch,
last one first. -/
structure Progress where
  groups : List OpenGroup
  branch : List Token

namespace Progress

def start : Progress := ⟨[], []⟩

def push (progress : Progress) (token : Token) : Progress :=
  { progress with branch := token :: progress.branch }

def openGroup (progress : Progress) : Progress := ⟨⟨progress.branch, []⟩ :: progress.groups, []⟩

/-- A comma begins the next branch of the innermost group; outside groups it stands for itself. -/
def comma (progress : Progress) : Progress :=
  match progress.groups with
  | [] => progress.push (.literal ',')
  | group :: outer =>
    ⟨{ group with branches := progress.branch.reverse :: group.branches } :: outer, []⟩

def closeGroup? (progress : Progress) : Option Progress :=
  match progress.groups with
  | [] => none
  | group :: outer =>
    let branches := (progress.branch.reverse :: group.branches).reverse
    some ⟨outer, .alternatives branches :: group.before⟩

/-- Put a recursive wildcard in place of the last token, which is the separator before it; one that
is recursive at the front or at the end already stays. -/
def widen (progress : Progress) (wildcard : Token) : Progress :=
  match progress.branch with
  | .anyFront :: _ | .anyBack :: _ => progress
  | _ :: earlier => { progress with branch := wildcard :: earlier }
  | [] => progress

end Progress

/-- The bounds of a class, last one first, with one more character: it ends an open range. -/
def extendClass (inRange : Bool) (character : Char) (ranges : List (Char × Char)) :
    Except Flaw (List (Char × Char)) :=
  match inRange, ranges with
  | true, (low, _) :: earlier =>
    if character < low then .error (.invalidRange low character)
    else .ok ((low, character) :: earlier)
  | _, _ => .ok ((character, character) :: ranges)

/-- Read the rest of a class after its opening bracket and its negation: the ranges in order, and
what follows the closing bracket. A bracket or hyphen in first place stands for itself, and so does
a hyphen in last place. -/
def classBody (isFirst inRange : Bool) (ranges : List (Char × Char)) :
    List Char → Except Flaw (List (Char × Char) × List Char)
  | [] => .error .unclosedClass
  | ']' :: rest =>
    if isFirst then classBody false false [(']', ']')] rest
    else .ok ((if inRange then ('-', '-') :: ranges else ranges).reverse, rest)
  | '-' :: rest =>
    if isFirst then classBody false false [('-', '-')] rest
    else if inRange then do classBody false false (← extendClass true '-' ranges) rest
    else classBody false true ranges rest
  | character :: rest => do
    classBody false false (← extendClass inRange character ranges) rest

def classToken : List Char → Except Flaw (Token × List Char)
  | '!' :: rest | '^' :: rest => do
    let (ranges, after) ← classBody true false [] rest
    .ok (.oneOf true ranges, after)
  | rest => do
    let (ranges, after) ← classBody true false [] rest
    .ok (.oneOf false ranges, after)

/-- What two stars after a previous character mean, and what is left to read. -/
def doubleStar (progress : Progress) (previous : Option Char) (rest : List Char) :
    Progress × Option Char × List Char :=
  let plain := ((progress.push .anyBytes).push .anyBytes, some '*', rest)
  if progress.branch.isEmpty then
    match rest with
    | [] => (progress.push .anyFront, none, [])
    | '/' :: after => (progress.push .anyFront, some '/', after)
    | _ => plain
  else if previous ≠ some '/' ∧
      (progress.groups.isEmpty ∨ (previous ≠ some ',' ∧ previous ≠ some '\x7b')) then plain
  else
    match rest with
    | [] => (progress.widen .anyBack, none, [])
    | '/' :: after => (progress.widen .anyBetween, some '/', after)
    | next :: _ =>
      if (next = ',' ∨ next = '\x7d') ∧ !progress.groups.isEmpty then
        (progress.widen .anyBack, some '*', rest)
      else plain

/-- Read a character that neither begins a class or an escape nor is the first of two stars. -/
def Progress.single (progress : Progress) : Char → Except Flaw Progress
  | '?' => .ok (progress.push .anyByte)
  | '*' => .ok (progress.push .anyBytes)
  | '\x7b' => .ok progress.openGroup
  | '\x7d' =>
    match progress.closeGroup? with
    | some next => .ok next
    | none => .error .unopenedGroup
  | ',' => .ok progress.comma
  | other => .ok (progress.push (.literal other))

/-- Read the token that a character begins: the progress behind it, the last character of it, and what is left
to read. -/
def readToken (progress : Progress) (previous : Option Char) (character : Char) (rest : List Char) :
    Except Flaw (Progress × Option Char × List Char) :=
  match character, rest with
  | '*', '*' :: after => .ok (doubleStar progress previous after)
  | '\\', escaped :: after => .ok (progress.push (.literal escaped), some escaped, after)
  | '\\', [] => .error .danglingEscape
  | '[', _ => do
    let (token, after) ← classToken rest
    .ok (progress.push token, some ']', after)
  | _, _ => do
    .ok (← progress.single character, some character, rest)

/-- Read a pattern to its end; the number of steps is bounded by the number of characters. -/
def readTokens : Nat → Progress → Option Char → List Char → Except Flaw Pattern
  | 0, progress, _, _ | _, progress, _, [] =>
    if progress.groups.isEmpty then .ok progress.branch.reverse else .error .unclosedGroup
  | steps + 1, progress, previous, character :: rest => do
    let (next, last, left) ← readToken progress previous character rest
    readTokens steps next last left

def Pattern.parse (text : String) : Except PatternError Pattern :=
  match readTokens text.length .start none text.toList with
  | .ok pattern => .ok pattern
  | .error flaw => .error ⟨text, flaw⟩

end RouteExplorer.Glob
