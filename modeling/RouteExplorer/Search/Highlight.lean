namespace RouteExplorer.Search

/-- A half-open range of positions. -/
structure HighlightRange where
  start : Nat
  stop : Nat
deriving DecidableEq, Repr

def dropRepeats : List Nat → List Nat
  | [] => []
  | [position] => [position]
  | first :: second :: rest =>
    if first = second then dropRepeats (second :: rest) else first :: dropRepeats (second :: rest)

def orderedPositions (positions : List Nat) : List Nat :=
  dropRepeats (positions.mergeSort fun left right => left ≤ right)

/-- Continue the ranges for ascending positions behind an open range. -/
def rangesFrom (current : HighlightRange) : List Nat → List HighlightRange
  | [] => [current]
  | position :: rest =>
    if position ≤ current.stop + 1 then rangesFrom ⟨current.start, position + 1⟩ rest
    else current :: rangesFrom ⟨position, position + 1⟩ rest

def highlightRanges : List Nat → List HighlightRange
  | [] => []
  | position :: rest => rangesFrom ⟨position, position + 1⟩ rest

structure HighlightSpan where
  fieldKey : String
  ranges : List HighlightRange
deriving DecidableEq, Repr

end RouteExplorer.Search
