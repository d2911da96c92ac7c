import RouteExplorer.Text.Split

/-!
File paths with `/` between their parts. A path keeps the spelling in which it was given; two
spellings mean the same path when their components agree.
-/
namespace RouteExplorer

/-- A file path in the spelling in which it was given. -/
structure FilePath where
  text : String
deriving DecidableEq, Repr, Inhabited

/-- One component of a path. A leading `.` is a component, any other `.` is none. -/
inductive PathComponent where
  | root
  | current
  | parent
  | name (text : String)
deriving DecidableEq, Repr

namespace PathComponent

def ofParts (parts : List String) : List PathComponent :=
  parts.filterMap fun part =>
    if part = "" ∨ part = "." then none
    else if part = ".." then some .parent
    else some (.name part)

def relativeText? : PathComponent → Option String
  | .name text => some text
  | .parent => some ".."
  | .root | .current => none

end PathComponent

namespace FilePath

/-- The parts between the separators, empty ones included. -/
def parts (path : FilePath) : List String := Text.split '/' path.text

def isAbsolute (path : FilePath) : Bool := path.text.toList.head? == some '/'

/-- The components of a path: repeated separators count once, and a trailing one not at all. -/
def components (path : FilePath) : List PathComponent :=
  if path.isAbsolute then .root :: PathComponent.ofParts path.parts
  else match path.parts with
    | "." :: rest => .current :: PathComponent.ofParts rest
    | parts => PathComponent.ofParts parts

def same (left right : FilePath) : Bool := left.components == right.components

/-- A path below another one; an absolute path stands for itself. -/
def join (base path : FilePath) : FilePath :=
  if path.isAbsolute then path
  else if base.text = "" ∨ base.text.toList.getLast? = some '/' then ⟨base.text ++ path.text⟩
  else ⟨base.text ++ "/" ++ path.text⟩

/-- The relative form of a list of components, with `/` between them; `.` for none. -/
def relativeText (components : List PathComponent) : String :=
  match components.filterMap PathComponent.relativeText? with
  | [] => "."
  | texts => Text.join '/' texts

/-- The path with single separators, without a root and without `.` components. -/
def normalized (path : FilePath) : String := relativeText path.components

/-- The components that remain of a path after those of a root, if the path begins with them. -/
def componentsBelow? (root path : FilePath) : Option (List PathComponent) :=
  if root.components.isPrefixOf path.components then
    some (path.components.drop root.components.length)
  else none

def below? (root path : FilePath) : Option String :=
  (componentsBelow? root path).map relativeText

def notBelowMessage (root path : FilePath) : String :=
  s!"strip prefix {root.text} from {path.text}"

/-- The name of the file that a path ends in, if it does not end in `..` or at the root. -/
def fileName? (path : FilePath) : Option String :=
  match path.components.getLast? with
  | some (.name text) => some text
  | _ => none

/-- What follows the last dot of the file name; a name has no extension when its only dot leads. -/
def extension? (path : FilePath) : Option String :=
  path.fileName?.bind fun name =>
    match (Text.split '.' name).reverse with
    | last :: before :: others => if before = "" ∧ others = [] then none else some last
    | _ => none

end FilePath

end RouteExplorer
