import RouteExplorer.Workspace.Disk

namespace RouteExplorer

inductive WatchMode where
  | off
  | auto
  | on
deriving DecidableEq, Repr

def WatchMode.ofText? : String → Option WatchMode
  | "off" => some .off
  | "auto" => some .auto
  | "on" => some .on
  | _ => none

structure WatchSettings where
  mode : WatchMode
  /-- The time for which changes are collected. -/
  debounceMs : Nat
  /-- The number of changes from which on everything is read again. -/
  batchLimit : Nat
deriving DecidableEq, Repr

/-- Settings with a time of at least one millisecond. -/
def WatchSettings.ofDebounce (mode : WatchMode) (debounceMs : Nat) : WatchSettings :=
  ⟨mode, max debounceMs 1, 1000⟩

inductive WatchOutcome where
  | off
  | started
  | failed
deriving DecidableEq, Repr

/-- Try to watch some roots. A root that is not there cannot be watched, which matters only if files
must be watched. -/
def WatchSettings.start (settings : WatchSettings) (disk : Disk) (roots : List FilePath) :
    WatchOutcome :=
  let isThere (root : FilePath) : Bool := disk.pathExists ((Disk.pathOf disk.current).join root)
  match settings.mode with
  | .off => .off
  | .auto => .started
  | .on => if roots.all isThere then .started else .failed

def WatchSettings.failedMessage : String := "No path was found."

end RouteExplorer
