import RouteExplorer.Proofs.Workspace.Spelling
import RouteExplorer.Workspace.PathMap

namespace RouteExplorer.PathMap

variable {α : Type}

theorem get?_congr (map : PathMap α) {left right : FilePath} (same : left.same right = true) :
    map.get? left = map.get? right := by
  simp [get?, FilePath.same_congr same]

/-- Where entries are kept by their paths, whatever the spelling, a path finds what it found if it is kept. -/
theorem get?_filter (map : PathMap α) {keeps : FilePath → Bool}
    (respects : ∀ left right : FilePath, left.same right = true → keeps left = keeps right) (path : FilePath) :
    get? ⟨map.entries.filter fun entry => keeps entry.1⟩ path = if keeps path then map.get? path else none := by
  have found (entry : FilePath × α) :
      (keeps entry.1 && entry.1.same path) = (keeps path && entry.1.same path) := by
    by_cases same : entry.1.same path = true
    · rw [respects _ _ same]
    · simp [same]
  unfold get?
  rw [List.find?_filter]
  simp only [Bool.decide_and, Bool.decide_eq_true, found]
  cases keeps path <;> simp

theorem get?_erase (map : PathMap α) (path other : FilePath) :
    (map.erase path).get? other = if path.same other then none else map.get? other := by
  have respects (left right : FilePath) (same : left.same right = true) :
      (!left.same path) = !right.same path := by
    rw [left.same_comm, right.same_comm, FilePath.same_congr same]
  have kept := map.get?_filter respects other
  rw [other.same_comm] at kept
  rw [erase, kept]
  cases path.same other <;> rfl

theorem get?_erase_eq_some {map : PathMap α} {path other : FilePath} {value : α} :
    (map.erase path).get? other = some value ↔ path.same other = false ∧ map.get? other = some value := by
  rw [get?_erase]
  cases path.same other <;> simp

theorem get?_insert (map : PathMap α) (path other : FilePath) (value : α) :
    (map.insert path value).get? other = if path.same other then some value else map.get? other := by
  split
  · next same => exact get?_insert_of_same map path other value same
  · next different =>
    have older := get?_erase map path other
    simp only [different, Bool.false_eq_true, ↓reduceIte] at older
    rw [← older]
    simp [get?, insert, different]

end RouteExplorer.PathMap
