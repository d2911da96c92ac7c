import RouteExplorer.FilePath

namespace RouteExplorer

/-- The names of the directories from the root down, and the name in the last of them. -/
abbrev Place := List String

/-- What lies at a place. A binary file holds no text. -/
inductive DiskEntry where
  | directory
  | text (content : String)
  | binary
deriving DecidableEq, Repr

/-- The entries of a disk, and the directory that relative paths start from. -/
structure Disk where
  current : Place
  entries : List (Place × DiskEntry)
deriving Repr

namespace Disk

/-- What lies at a place. The root is always a directory. -/
def entry? (disk : Disk) (place : Place) : Option DiskEntry :=
  if place = [] then some .directory else disk.entries.lookup place

def isDirectoryAt (disk : Disk) (place : Place) : Bool := disk.entry? place == some .directory

def put (disk : Disk) (place : Place) (entry : DiskEntry) : Disk :=
  { disk with entries := (place, entry) :: disk.entries.filter fun kept => kept.1 != place }

/-- The places on the way to a place, itself included, from the root down. -/
def placesTo (place : Place) : List Place :=
  (List.range place.length).map fun index => place.take (index + 1)

def makeDirectories (disk : Disk) (place : Place) : Disk :=
  (placesTo place).foldl (fun disk place =>
    if (disk.entry? place).isSome then disk else disk.put place .directory) disk

/-- Put an entry at a place, in directories that are made where they are missing. -/
def write (disk : Disk) (place : Place) (entry : DiskEntry) : Disk :=
  match entry with
  | .directory => disk.makeDirectories place
  | _ => (disk.makeDirectories place.dropLast).put place entry

def remove (disk : Disk) (place : Place) : Disk :=
  { disk with entries := disk.entries.filter fun kept => !place.isPrefixOf kept.1 }

/-- A disk with nothing but the way to its current directory. -/
def empty (current : Place) : Disk := makeDirectories ⟨current, []⟩ current

def startOf (disk : Disk) (path : FilePath) : Place := if path.isAbsolute then [] else disk.current

def follow (disk : Disk) (place : Place) (part : String) : Option Place :=
  if !disk.isDirectoryAt place then none
  else if part = "" ∨ part = "." then some place
  else if part = ".." then some place.dropLast
  else if (disk.entry? (place ++ [part])).isSome then some (place ++ [part])
  else none

def resolve? (disk : Disk) (path : FilePath) : Option Place :=
  if path.text = "" ∨ path.text.toList.contains '\x00' then none
  else path.parts.foldlM disk.follow (disk.startOf path)

/-- The place that a path names, whether there is something or not. -/
def target (disk : Disk) (path : FilePath) : Place :=
  path.components.foldl (fun place component =>
    match component with
    | .root => []
    | .current => place
    | .parent => place.dropLast
    | .name text => place ++ [text]) (disk.startOf path)

def pathOf (place : Place) : FilePath := ⟨"/" ++ Text.join '/' place⟩

def entryOf? (disk : Disk) (path : FilePath) : Option DiskEntry := (disk.resolve? path).bind disk.entry?

def pathExists (disk : Disk) (path : FilePath) : Bool := (disk.resolve? path).isSome

def isDirectory (disk : Disk) (path : FilePath) : Bool := disk.entryOf? path == some .directory

def isFile (disk : Disk) (path : FilePath) : Bool :=
  match disk.entryOf? path with
  | some (.text _) | some .binary => true
  | _ => false

def read? (disk : Disk) (path : FilePath) : Option String :=
  match disk.entryOf? path with
  | some (.text content) => some content
  | _ => none

/-- The absolute path without detours that leads to the same place; where a path leads nowhere, the
path itself. -/
def canonical (disk : Disk) (path : FilePath) : FilePath :=
  match disk.resolve? path with
  | some place => pathOf place
  | none => path

def filesBelow (disk : Disk) (place : Place) : List Place :=
  disk.entries.filterMap fun (found, entry) =>
    if entry ≠ .directory ∧ place.isPrefixOf found then some (found.drop place.length) else none

end Disk

def FilePath.unreadableMessage (path : FilePath) : String := s!"read {path.text}"

end RouteExplorer
