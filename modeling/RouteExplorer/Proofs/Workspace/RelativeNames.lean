import RouteExplorer.Proofs.Workspace.Spelling

namespace RouteExplorer

namespace PathComponent

/-- A component that can stand anywhere behind the beginning of a path: a name, or a step up. -/
def IsStep : PathComponent → Prop
  | .parent => True
  | .name text => text ≠ "" ∧ text ≠ "." ∧ text ≠ ".." ∧ '/' ∉ text.toList
  | .root | .current => False

theorem isStep_of_mem_ofParts {text : String} {component : PathComponent}
    (member : component ∈ ofParts (Text.split '/' text)) : component.IsStep := by
  obtain ⟨part, cut, gives⟩ := List.mem_filterMap.mp member
  split at gives
  · exact absurd gives nofun
  · next visible =>
    split at gives
    · obtain rfl := Option.some.inj gives
      exact trivial
    · next named =>
      obtain rfl := Option.some.inj gives
      exact ⟨(not_or.mp visible).1, (not_or.mp visible).2, named, Text.not_mem_of_mem_split cut⟩

/-- The texts of steps are read as these steps. -/
theorem ofParts_relativeTexts {components : List PathComponent}
    (steps : ∀ component ∈ components, component.IsStep) :
    ofParts (components.filterMap relativeText?) = components := by
  induction components with
  | nil => rfl
  | cons first rest ih =>
    obtain ⟨step, others⟩ := List.forall_mem_cons.mp steps
    have later := ih others
    cases first with
    | root => exact step.elim
    | current => exact step.elim
    | parent => simp_all [ofParts, relativeText?]
    | name text =>
      obtain ⟨filled, notCurrent, notParent, _⟩ := step
      simp_all [ofParts, relativeText?]

theorem clean_of_mem_relativeTexts {components : List PathComponent}
    (steps : ∀ component ∈ components, component.IsStep) {text : String}
    (member : text ∈ components.filterMap relativeText?) : text ≠ "" ∧ '/' ∉ text.toList := by
  obtain ⟨component, present, gives⟩ := List.mem_filterMap.mp member
  have step := steps component present
  cases component with
  | root => exact step.elim
  | current => exact step.elim
  | parent =>
    obtain rfl := Option.some.inj gives
    decide
  | name text =>
    obtain rfl := Option.some.inj gives
    exact ⟨step.1, step.2.2.2⟩

end PathComponent

namespace FilePath

open PathComponent (ofParts IsStep)

/-- The parts of a relative form: the texts of the components, or a lone `.`. -/
theorem exists_parts_relativeText {components : List PathComponent}
    (steps : ∀ component ∈ components, component.IsStep) :
    ∃ first others, (FilePath.mk (relativeText components)).parts = first :: others ∧ first ≠ "" ∧
      ofParts (first :: others) = components := by
  have read := PathComponent.ofParts_relativeTexts steps
  have clean (text : String) (member : text ∈ components.filterMap PathComponent.relativeText?) :=
    PathComponent.clean_of_mem_relativeTexts steps member
  unfold relativeText parts
  split
  · next none =>
    rw [none] at read
    exact ⟨".", [], by decide, by decide, read⟩
  · next filled =>
    obtain ⟨first, others, texts⟩ := List.exists_cons_of_ne_nil filled
    refine ⟨first, others, ?_, (clean first (by simp [texts])).1, texts ▸ read⟩
    rw [Text.split_join '/' _ filled fun text member => (clean text member).2, texts]

theorem isAbsolute_of_parts {path : FilePath} {first : String} {others : List String}
    (parts : path.parts = first :: others) (filled : first ≠ "") : path.isAbsolute = false := by
  unfold FilePath.parts Text.split at parts
  unfold isAbsolute
  cases text : path.text.toList with
  | nil => rfl
  | cons head rest =>
    by_cases slash : head = '/'
    · simp_all [Text.splitChars]
    · simp [slash]

/-- Joined to a root, a relative form stands for the components that it was made of. -/
theorem components_join_relativeText {root : FilePath} (usable : root.text ≠ "") {components : List PathComponent}
    (steps : ∀ component ∈ components, component.IsStep) :
    (root.join ⟨relativeText components⟩).components = root.components ++ components := by
  obtain ⟨first, others, parts, filled, read⟩ := exists_parts_relativeText steps
  rw [components_join root _ (isAbsolute_of_parts parts filled) usable, parts, read]

theorem normalized_eq (path : FilePath) : path.normalized = relativeText (ofParts path.parts) := by
  have silent : path.lead.filterMap PathComponent.relativeText? = [] := by
    unfold lead
    split
    · rfl
    · split <;> rfl
  rw [normalized, components_eq, relativeText, List.filterMap_append, silent, List.nil_append]
  rfl

theorem normalized_normalized (path : FilePath) : (FilePath.mk path.normalized).normalized = path.normalized := by
  have steps : ∀ component ∈ ofParts path.parts, component.IsStep :=
    fun _ member => PathComponent.isStep_of_mem_ofParts member
  obtain ⟨first, others, parts, _, read⟩ := exists_parts_relativeText steps
  rw [normalized_eq (FilePath.mk _), normalized_eq path, parts, read]

theorem components_of_isAbsolute {path : FilePath} (absolute : path.isAbsolute = true) :
    path.components = .root :: ofParts path.parts := if_pos absolute

theorem steps_of_componentsBelow? {root path : FilePath} (absolute : root.isAbsolute = true)
    {left : List PathComponent} (below : root.componentsBelow? path = some left) :
    path.components = root.components ++ left ∧ ∀ component ∈ left, component.IsStep := by
  unfold componentsBelow? at below
  split at below
  · next begins =>
    obtain ⟨rest, whole⟩ := List.isPrefixOf_iff_prefix.mp begins
    obtain rfl : rest = left := by simpa [← whole] using below
    refine ⟨whole.symm, fun component member => ?_⟩
    -- the root takes the beginning of the path with it
    have starts := components_of_isAbsolute absolute
    have path_absolute : path.isAbsolute = true := by
      rw [isAbsolute_eq, ← whole, starts]
      rfl
    rw [starts, components_of_isAbsolute path_absolute, List.cons_append, List.cons_inj_right] at whole
    have part : component ∈ ofParts path.parts := by
      rw [← whole]
      exact List.mem_append_right _ member
    exact PathComponent.isStep_of_mem_ofParts part
  · exact absurd below nofun

theorem isSome_below?_iff (root path : FilePath) :
    (root.below? path).isSome = true ↔ root.components <+: path.components := by
  rw [below?, Option.isSome_map, componentsBelow?, ← List.isPrefixOf_iff_prefix]
  split <;> simp_all

theorem same_join_of_below? {root path : FilePath} (absolute : root.isAbsolute = true) {name : String}
    (below : root.below? path = some name) : (root.join ⟨name⟩).same path = true := by
  obtain ⟨left, remains, rfl⟩ := Option.map_eq_some_iff.mp below
  obtain ⟨whole, steps⟩ := steps_of_componentsBelow? absolute remains
  have usable : root.text ≠ "" := by
    intro empty
    simp [isAbsolute, empty] at absolute
  rw [same_iff, components_join_relativeText usable steps, whole]

/-- Relative names are faithful. Below an absolute root a path has a name exactly if its components begin with those
of the root. The name leads back to the path, so that no two paths share it, and to make a relative form relative
changes nothing. -/
theorem relativeNames_faithful (root : FilePath) (absolute : root.isAbsolute = true) :
    (∀ path, (root.below? path).isSome = true ↔ root.components <+: path.components) ∧
      (∀ path name, root.below? path = some name → (root.join ⟨name⟩).same path = true) ∧
      (∀ left right name, root.below? left = some name → root.below? right = some name →
        left.same right = true) ∧
      ∀ path : FilePath, (FilePath.mk path.normalized).normalized = path.normalized := by
  refine ⟨isSome_below?_iff root, fun path name => same_join_of_below? absolute,
    fun left right name one other => ?_, normalized_normalized⟩
  have back := same_join_of_below? absolute one
  rw [same_comm] at back
  exact same_trans back (same_join_of_below? absolute other)

/-- A root and a path below it with detours, a step up, and separators that do not count. -/
theorem catsName_faithful :
    (FilePath.mk "/repo/.").isAbsolute = true ∧
      (FilePath.mk "/repo/.").below? ⟨"//repo/./src//../cats/"⟩ = some "src/../cats" ∧
      ((FilePath.mk "/repo/.").join ⟨"src/../cats"⟩).same ⟨"//repo/./src//../cats/"⟩ = true := by
  have absolute : (FilePath.mk "/repo/.").isAbsolute = true := by decide
  have named : (FilePath.mk "/repo/.").below? ⟨"//repo/./src//../cats/"⟩ = some "src/../cats" := by decide +kernel
  exact ⟨absolute, named, (relativeNames_faithful _ absolute).2.1 _ _ named⟩

end FilePath

end RouteExplorer
