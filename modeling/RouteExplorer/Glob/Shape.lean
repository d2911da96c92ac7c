import RouteExplorer.Glob.Pattern

/-!
The sets of byte sequences that patterns describe. A path is matched by following all places that
can be reached at once, so that matching is linear in the path for each element of the shape.
-/
namespace RouteExplorer.Glob

inductive ByteSet where
  | one (byte : UInt8)
  | all
  | allBut (byte : UInt8)
  | ranges (negated : Bool) (bounds : List (UInt8 × UInt8))
deriving DecidableEq, Repr

def ByteSet.contains : ByteSet → UInt8 → Bool
  | .one wanted, byte => byte == wanted
  | .all, _ => true
  | .allBut other, byte => byte != other
  | .ranges negated bounds, byte =>
    (bounds.any fun bound => bound.1 ≤ byte && byte ≤ bound.2) != negated

inductive Shape where
  | byte (set : ByteSet)
  /-- Any number of bytes of a set. -/
  | many (set : ByteSet)
  | sequence (parts : List Shape)
  | choice (options : List Shape)
deriving Repr

def separator : UInt8 := 0x2F

namespace Shape

def stepByte (set : ByteSet) : List UInt8 → List Bool → List Bool
  | head :: bytes, here :: places => (here && set.contains head) :: stepByte set bytes places
  | _, _ => []

/-- The reachable places behind any number of bytes of a set; `carried` tells whether the current
place is reached from an earlier one. -/
def stepMany (set : ByteSet) (carried : Bool) : List UInt8 → List Bool → List Bool
  | head :: bytes, here :: places =>
    (here || carried) :: stepMany set ((here || carried) && set.contains head) bytes places
  | [], here :: _ => [here || carried]
  | _, [] => []

def union : List Bool → List Bool → List Bool
  | left :: lefts, right :: rights => (left || right) :: union lefts rights
  | [], rights => rights
  | lefts, [] => lefts

mutual

/-- The places behind a shape, given the places in front of it. Place `n` lies in front of byte
`n`, and there is one place more than there are bytes. -/
def step (bytes : List UInt8) : Shape → List Bool → List Bool
  | .byte set, places => false :: stepByte set bytes places
  | .many set, places => stepMany set false bytes places
  | .sequence parts, places => stepAll bytes parts places
  | .choice options, places => stepAny bytes options places

def stepAll (bytes : List UInt8) : List Shape → List Bool → List Bool
  | [], places => places
  | part :: rest, places => stepAll bytes rest (step bytes part places)

def stepAny (bytes : List UInt8) : List Shape → List Bool → List Bool
  | [], places => places.map fun _ => false
  | option :: rest, places => union (step bytes option places) (stepAny bytes rest places)

end

def accepts (shape : Shape) (bytes : List UInt8) : Bool :=
  ((step bytes shape (true :: bytes.map fun _ => false)).getLast?).getD false

def exactly (bytes : List UInt8) : Shape := .sequence (bytes.map fun byte => .byte (.one byte))

def slash : Shape := .byte (.one separator)

def anythingToSlash : Shape := .sequence [.many .all, slash]

end Shape

def charBytes (character : Char) : List UInt8 := (String.ofList [character]).toUTF8.toList

/-- The bytes that a range of characters adds to a class, which is a class of bytes: a range of
ASCII characters is a range of bytes; of a longer character all bytes count, and the range runs from
the last byte of the lower bound to the first one of the upper bound. -/
def rangeBytes (low high : Char) : List (UInt8 × UInt8) :=
  let single (bytes : List UInt8) : List (UInt8 × UInt8) := bytes.map fun byte => (byte, byte)
  if low = high then single (charBytes low)
  else match (charBytes low).reverse, charBytes high with
    | last :: before, first :: after => single before.reverse ++ (last, first) :: single after
    | _, _ => []

mutual

/-- What a token describes; an alternative that describes only the empty text is left out. -/
def Token.shape : Token → Shape
  | .literal character => Shape.exactly (charBytes character)
  | .anyByte => .byte (.allBut separator)
  | .anyBytes => .many (.allBut separator)
  | .anyFront => .choice [.sequence [], Shape.slash, Shape.anythingToSlash]
  | .anyBack => .sequence [Shape.slash, .many .all]
  | .anyBetween => .choice [Shape.slash, .sequence [Shape.slash, Shape.anythingToSlash]]
  | .oneOf negated ranges =>
    .byte (.ranges negated (ranges.flatMap fun range => rangeBytes range.1 range.2))
  | .alternatives branches =>
    match branchShapes branches with
    | [] => .sequence []
    | shapes => .choice shapes

def Token.isVoid : Token → Bool
  | .alternatives branches => allVoid branches
  | _ => false

def allVoid : List (List Token) → Bool
  | [] => true
  | branch :: rest => isVoidBranch branch && allVoid rest

def isVoidBranch : List Token → Bool
  | [] => true
  | token :: rest => token.isVoid && isVoidBranch rest

def branchShapes : List (List Token) → List Shape
  | [] => []
  | branch :: rest =>
    if isVoidBranch branch then branchShapes rest
    else .sequence (tokenShapes branch) :: branchShapes rest

def tokenShapes : List Token → List Shape
  | [] => []
  | token :: rest => token.shape :: tokenShapes rest

end

/-- What a pattern describes; a bare `**` describes everything. -/
def Pattern.shape : Pattern → Shape
  | [.anyFront] => .many .all
  | pattern => .sequence (tokenShapes pattern)

namespace Pattern

private def literal? : Token → Option Char
  | .literal character => some character
  | _ => none

/-- A pattern of literal characters only, or of such characters with a separator among them behind
a leading `**`. -/
def isFixed (pattern : Pattern) : Bool :=
  match pattern with
  | .anyFront :: rest =>
    match rest.mapM literal? with
    | some characters => characters.contains '/'
    | none => false
  | _ => (pattern.mapM literal?).isSome

/-- A pattern with wildcards that ends in a dot names a file by the end of its name. -/
def endsInDot (pattern : Pattern) : Bool :=
  match pattern.getLast? with
  | some (.literal '.') => !pattern.isFixed
  | _ => false

/-- Whether a path ends in the part `..`, which names no file. -/
def namesParent (bytes : List UInt8) : Bool :=
  match bytes.reverse with
  | [0x2E, 0x2E] => true
  | 0x2E :: 0x2E :: before :: _ => before == separator
  | _ => false

def matchesBytes (pattern : Pattern) (bytes : List UInt8) : Bool :=
  !(pattern.endsInDot && namesParent bytes) && pattern.shape.accepts bytes

def isMatch (pattern : Pattern) (path : String) : Bool := pattern.matchesBytes path.toUTF8.toList

end Pattern

end RouteExplorer.Glob
