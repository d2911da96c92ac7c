import RouteExplorer.Text.Split

namespace RouteExplorer.Text

/-- The value of a hexadecimal digit; any other character counts as zero. -/
def hexDigitValue (digit : Char) : Nat :=
  if '0' ≤ digit ∧ digit ≤ '9' then digit.toNat - '0'.toNat
  else if 'A' ≤ digit ∧ digit ≤ 'F' then digit.toNat - 'A'.toNat + 10
  else if 'a' ≤ digit ∧ digit ≤ 'f' then digit.toNat - 'a'.toNat + 10
  else 0

def readHex (digits : List Char) : Nat :=
  digits.foldl (fun value digit => 16 * value + hexDigitValue digit) 0

def words (text : String) : List (List Char) :=
  ((splitChars '\n' text.toList).flatMap (splitChars ' ')).filter fun piece => !piece.isEmpty

/-- The last index at or below `high` whose entry starts at or below a code point, by bisection of
the indices from `low` on; `low` itself when there is none. -/
def bisect (startsBelow : Nat → Bool) (low high : Nat) : Nat :=
  if low + 1 < high then
    let middle := (low + high) / 2
    if startsBelow middle then bisect startsBelow middle high else bisect startsBelow low middle
  else low
termination_by high - low

/-- Closed ranges of code points, ascending and apart. -/
structure CodeRanges where
  bounds : Array (Nat × Nat)

namespace CodeRanges

/-- Read ranges such as `41-5A` and single code points such as `AA`, as words of a text. -/
def ofText (text : String) : CodeRanges :=
  ⟨((words text).map fun piece =>
    match splitChars '-' piece with
    | first :: last :: _ => (readHex first, readHex last)
    | _ => (readHex piece, readHex piece)).toArray⟩

def contains (ranges : CodeRanges) (code : Nat) : Bool :=
  let startsBelow (index : Nat) : Bool := match ranges.bounds[index]? with
    | some (first, _) => first ≤ code
    | none => false
  match ranges.bounds[bisect startsBelow 0 ranges.bounds.size]? with
  | some (first, last) => first ≤ code && code ≤ last
  | none => false

end CodeRanges

/-- The code points from `first` to `last` in steps of `step`, each mapped at the same distance
from `image` as it has from `first`. -/
structure CodeRun where
  first : Nat
  last : Nat
  step : Nat
  image : Nat

structure CodeMap where
  runs : Array CodeRun

namespace CodeMap

def ofText (text : String) : CodeMap :=
  ⟨((words text).filterMap fun piece =>
    match (splitChars ':' piece).map readHex with
    | [first, last, step, image] => some ⟨first, last, step, image⟩
    | _ => none).toArray⟩

def find? (map : CodeMap) (code : Nat) : Option Nat :=
  let startsBelow (index : Nat) : Bool := match map.runs[index]? with
    | some run => run.first ≤ code
    | none => false
  match map.runs[bisect startsBelow 0 map.runs.size]? with
  | some run =>
    if run.first ≤ code ∧ code ≤ run.last ∧ (code - run.first) % run.step = 0 then
      some (run.image + (code - run.first))
    else none
  | none => none

/-- The image of a character; a character that the map does not move is its own image. -/
def apply (map : CodeMap) (character : Char) : Char :=
  match map.find? character.toNat with
  | some code => Char.ofNat code
  | none => character

end CodeMap

end RouteExplorer.Text
