import RouteExplorer.Workspace.Disk
import RouteExplorer.Workspace.PathMap

/-!
Buffers of an editor over a disk. An open buffer hides the file below it; a closed one lets it show
again but keeps its version.
-/
namespace RouteExplorer

structure Buffer where
  text : String
  version : Int
  isClosed : Bool
deriving DecidableEq, Repr

structure Overlay where
  buffers : PathMap Buffer
deriving Repr

namespace Overlay

def empty : Overlay := ⟨.empty⟩

/-- Open a buffer, in place of any earlier one. -/
def openBuffer (overlay : Overlay) (path : FilePath) (text : String) (version : Int) : Overlay :=
  ⟨overlay.buffers.insert path ⟨text, version, false⟩⟩

/-- Replace the text of a buffer, open or not. A version older than the buffer's changes nothing. -/
def updateBuffer (overlay : Overlay) (path : FilePath) (text : String) (version : Int) : Overlay :=
  match overlay.buffers.get? path with
  | some buffer => if version < buffer.version then overlay else overlay.openBuffer path text version
  | none => overlay.openBuffer path text version

def closeBuffer (overlay : Overlay) (path : FilePath) : Overlay :=
  match overlay.buffers.get? path with
  | some buffer => ⟨overlay.buffers.insert path { buffer with isClosed := true }⟩
  | none => overlay

def openAt? (overlay : Overlay) (path : FilePath) : Option Buffer :=
  (overlay.buffers.get? path).filter fun buffer => !buffer.isClosed

def isOpen (overlay : Overlay) (path : FilePath) : Bool := (overlay.openAt? path).isSome

def read? (overlay : Overlay) (disk : Disk) (path : FilePath) : Option String :=
  match overlay.openAt? path with
  | some buffer => some buffer.text
  | none => disk.read? path

end Overlay

end RouteExplorer
