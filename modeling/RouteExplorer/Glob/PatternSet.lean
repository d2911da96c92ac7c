import RouteExplorer.Glob.Parser
import RouteExplorer.Glob.Shape
import RouteExplorer.Text.Split

namespace RouteExplorer.Glob

/-- Parsed include and exclude patterns, and those that name whole directories to leave out. -/
structure PatternSet where
  included : List Pattern
  excluded : List Pattern
  pruned : List Pattern
deriving Repr

namespace PatternSet

/-- The directory whose whole content an exclude pattern removes. -/
def prunedDirectory? (text : String) : Option String :=
  match text.toList.reverse with
  | '*' :: '*' :: '/' :: before => if before = [] then none else some (String.ofList before.reverse)
  | _ => none

/-- Read include and exclude patterns. The first flaw is reported, those of pruned directories
before those of include patterns, and those before exclude patterns. -/
def parse (includeTexts excludeTexts : List String) : Except PatternError PatternSet := do
  let pruned ← (excludeTexts.filterMap prunedDirectory?).mapM Pattern.parse
  let included ← includeTexts.mapM Pattern.parse
  let excluded ← excludeTexts.mapM Pattern.parse
  .ok ⟨included, excluded, pruned⟩

def selects (patterns : PatternSet) (path : String) : Bool :=
  (patterns.included.any fun pattern => pattern.isMatch path) &&
    !(patterns.excluded.any fun pattern => pattern.isMatch path)

def prunes (patterns : PatternSet) (path : String) : Bool :=
  patterns.pruned.any fun pattern => pattern.isMatch path

end PatternSet

end RouteExplorer.Glob
