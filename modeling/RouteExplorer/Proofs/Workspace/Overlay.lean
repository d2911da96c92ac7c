import RouteExplorer.Proofs.Workspace.PathMap
import RouteExplorer.Workspace.Overlay

namespace RouteExplorer

namespace Buffer

/-- The buffer of a file that is opened, whatever it was. -/
def opened (text : String) (version : Int) (_ : Option Buffer) : Option Buffer := some ⟨text, version, false⟩

/-- The buffer of a file that is updated, unless it is of a newer version. -/
def updated (text : String) (version : Int) : Option Buffer → Option Buffer
  | some buffer => if version < buffer.version then some buffer else some ⟨text, version, false⟩
  | none => some ⟨text, version, false⟩

/-- The buffer of a file that is closed; one that is not there stays so. -/
def closed (buffer : Option Buffer) : Option Buffer := buffer.map fun kept => { kept with isClosed := true }

end Buffer

namespace Overlay

/-- Of all buffers an edit changes that of one path, in whatever spelling. -/
def Edits (before after : Overlay) (path : FilePath) (change : Option Buffer → Option Buffer) : Prop :=
  ∀ other, after.buffers.get? other =
    if path.same other then change (before.buffers.get? other) else before.buffers.get? other

theorem edits_openBuffer (overlay : Overlay) (path : FilePath) (text : String) (version : Int) :
    overlay.Edits (overlay.openBuffer path text version) path (Buffer.opened text version) :=
  fun other => overlay.buffers.get?_insert path other _

theorem edits_updateBuffer (overlay : Overlay) (path : FilePath) (text : String) (version : Int) :
    overlay.Edits (overlay.updateBuffer path text version) path (Buffer.updated text version) := by
  intro other
  have opens := overlay.edits_openBuffer path text version other
  by_cases same : path.same other = true
  · rw [if_pos same] at opens ⊢
    rw [updateBuffer, overlay.buffers.get?_congr same]
    cases known : overlay.buffers.get? other with
    | none => exact opens
    | some buffer =>
      by_cases outdated : version < buffer.version
      · simp [outdated, Buffer.updated, known]
      · simpa [outdated, Buffer.updated, Buffer.opened] using opens
  · rw [if_neg same] at opens ⊢
    unfold updateBuffer
    split
    · split
      · rfl
      · exact opens
    · exact opens

theorem edits_closeBuffer (overlay : Overlay) (path : FilePath) :
    overlay.Edits (overlay.closeBuffer path) path Buffer.closed := by
  intro other
  by_cases same : path.same other = true
  · rw [if_pos same, closeBuffer, overlay.buffers.get?_congr same]
    cases known : overlay.buffers.get? other with
    | none => simp [Buffer.closed, known]
    | some buffer => simp [Buffer.closed, PathMap.get?_insert, same]
  · rw [if_neg same, closeBuffer]
    split
    · simp [PathMap.get?_insert, same]
    · rfl

theorem Edits.read?_eq {before after : Overlay} {path : FilePath} {change : Option Buffer → Option Buffer}
    (edits : before.Edits after path change) (disk : Disk) {other : FilePath}
    (different : path.same other = false) : after.read? disk other = before.read? disk other := by
  have kept : after.buffers.get? other = before.buffers.get? other := by
    simpa [different] using edits other
  simp [read?, openAt?, kept]

end Overlay

end RouteExplorer
