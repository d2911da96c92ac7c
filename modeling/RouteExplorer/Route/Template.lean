namespace RouteExplorer.Template

def withLeadingSlash : List Char → List Char
  | '/' :: rest => '/' :: rest
  | others => '/' :: others

/-- Join a base and a handler path. An empty handler path stands for the base itself, and below a
bare `/` the handler path stands alone. -/
def combineChars (base route : List Char) : List Char :=
  if route = [] then withLeadingSlash base
  else if withLeadingSlash base = ['/'] then withLeadingSlash route
  else withLeadingSlash base ++ withLeadingSlash route

/-- The full path of a handler below a base path; it always starts with `/`. -/
def combine (base route : String) : String :=
  String.ofList (combineChars base.toList route.toList)

def isNameStart (character : Char) : Bool := character.isAlpha || character == '_'

def isNamePart (character : Char) : Bool := character.isAlphanum || character == '_'

/-- A stretch of a text, by the offset of its first byte and that of the byte behind it. -/
structure Stretch where
  start : String.Pos.Raw
  stop : String.Pos.Raw
deriving DecidableEq, Repr

def Stretch.textIn (stretch : Stretch) (text : String) : String := stretch.start.extract text stretch.stop

/-- Read a name on: the offset of the byte behind it, and the characters from there on. -/
def nameEnd (offset : String.Pos.Raw) : List Char → String.Pos.Raw × List Char
  | [] => (offset, [])
  | next :: rest => if isNamePart next then nameEnd (offset + next) rest else (offset, next :: rest)

theorem length_nameEnd_le (offset : String.Pos.Raw) (characters : List Char) :
    (nameEnd offset characters).2.length ≤ characters.length := by
  fun_induction nameEnd offset characters with
  | case1 => exact Nat.le_refl _
  | case2 offset next rest _ ih => exact Nat.le_succ_of_le ih
  | case3 => exact Nat.le_refl _

/-- Where the names after the colons stand, in order, in characters that begin at an offset. A colon that no name
follows is skipped. -/
def nameStretches (offset : String.Pos.Raw) : List Char → List Stretch
  | [] => []
  | [_] => []
  | mark :: first :: rest =>
    if mark = ':' ∧ isNameStart first then
      let name := nameEnd (offset + mark) (first :: rest)
      ⟨offset + mark, name.1⟩ :: nameStretches name.1 name.2
    else nameStretches (offset + mark) (first :: rest)
termination_by characters => characters.length
decreasing_by
  · exact Nat.lt_succ_of_le (length_nameEnd_le _ _)
  · simp

/-- The parameter names of a path, in order of appearance and with repetitions. -/
def parameters (path : String) : List String :=
  (nameStretches 0 path.toList).map fun stretch => stretch.textIn path

end RouteExplorer.Template
