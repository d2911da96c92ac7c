import RouteExplorer.Glob.PatternSet
import RouteExplorer.Workspace.Disk

namespace RouteExplorer

open Glob (PatternSet)

def relativePath (names : Place) : String := Text.join '/' names

/-- The directories on the way to the last of some names, from the first one down. -/
def directoriesOnWay : Place → List Place
  | name :: next :: rest => [name] :: (directoriesOnWay (next :: rest)).map (name :: ·)
  | _ => []

/-- Whether a walk from a root comes to a file. -/
def isVisited (patterns : PatternSet) (names : Place) : Bool :=
  (directoriesOnWay names).all fun directory => !patterns.prunes (relativePath directory)

/-- The relative paths of the files below a root that a walk visits and the patterns select, in
order. A root that is no directory has none. -/
def selectedBelow (disk : Disk) (patterns : PatternSet) (root : FilePath) : List String :=
  match disk.resolve? root with
  | none => []
  | some place =>
    if disk.isDirectoryAt place then
      (((disk.filesBelow place).filter (isVisited patterns)).map relativePath).filter patterns.selects
        |>.mergeSort fun left right => left ≤ right
    else []

def scanRoot (disk : Disk) (patterns : PatternSet) (root : FilePath) : List FilePath :=
  (selectedBelow disk patterns root).map fun relative => root.join ⟨relative⟩

/-- Keep the first spelling of each path. -/
def distinctPaths (paths : List FilePath) : List FilePath :=
  paths.foldl (fun kept path => if kept.any (·.same path) then kept else kept ++ [path]) []

/-- The paths of the files below some roots, in the order of the roots, each once. -/
def scanRoots (disk : Disk) (patterns : PatternSet) (roots : List FilePath) : List FilePath :=
  distinctPaths (roots.flatMap (scanRoot disk patterns))

/-- Whether a path lies below one of some roots and the patterns select it there. -/
def isEligible (roots : List FilePath) (patterns : PatternSet) (path : FilePath) : Bool :=
  roots.any fun root => (FilePath.below? root path).any patterns.selects

end RouteExplorer
