import RouteExplorer.FilePath

namespace RouteExplorer

/-- A list of paths with their values, in which no path occurs in two spellings. -/
structure PathMap (α : Type) where
  entries : List (FilePath × α)
deriving Repr

namespace PathMap

variable {α : Type}

def empty : PathMap α := ⟨[]⟩

def get? (map : PathMap α) (path : FilePath) : Option α :=
  (map.entries.find? fun entry => entry.1.same path).map Prod.snd

def contains (map : PathMap α) (path : FilePath) : Bool := (map.get? path).isSome

def erase (map : PathMap α) (path : FilePath) : PathMap α :=
  ⟨map.entries.filter fun entry => !entry.1.same path⟩

def insert (map : PathMap α) (path : FilePath) (value : α) : PathMap α :=
  ⟨(path, value) :: (map.erase path).entries⟩

def size (map : PathMap α) : Nat := map.entries.length

theorem get?_empty (path : FilePath) : (empty : PathMap α).get? path = none := rfl

theorem get?_insert_of_same (map : PathMap α) (path other : FilePath) (value : α)
    (same : path.same other) : (map.insert path value).get? other = some value := by
  simp [get?, insert, same]

end PathMap

end RouteExplorer
