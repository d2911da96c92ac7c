import RouteExplorer.Index.Scan
import RouteExplorer.Proofs.Text.Pieces

namespace RouteExplorer

/-- A name that an entry of a directory can have. -/
structure EntryName (name : String) : Prop where
  nonempty : name ≠ ""
  notCurrent : name ≠ "."
  notParent : name ≠ ".."
  noSeparator : '/' ∉ name.toList
  noNull : '\x00' ∉ name.toList

instance (name : String) : Decidable (EntryName name) :=
  decidable_of_iff (name ≠ "" ∧ name ≠ "." ∧ name ≠ ".." ∧ '/' ∉ name.toList ∧ '\x00' ∉ name.toList)
    ⟨fun ⟨nonempty, notCurrent, notParent, noSeparator, noNull⟩ =>
      ⟨nonempty, notCurrent, notParent, noSeparator, noNull⟩,
    fun named => ⟨named.1, named.2, named.3, named.4, named.5⟩⟩

namespace PathComponent

theorem ofParts_append (front back : List String) :
    ofParts (front ++ back) = ofParts front ++ ofParts back := by
  simp [ofParts]

theorem ofParts_names (names : List String) (named : ∀ name ∈ names, EntryName name) :
    ofParts names = names.map .name := by
  induction names with
  | nil => rfl
  | cons name rest ih =>
    have first := named name (by simp)
    have later := ih (fun other member => named other (List.mem_cons_of_mem _ member))
    simp only [ofParts] at later
    simp [ofParts, first.nonempty, first.notCurrent, first.notParent, later]

end PathComponent

namespace FilePath

open PathComponent (ofParts ofParts_append ofParts_names)

theorem same_iff (left right : FilePath) :
    left.same right = true ↔ left.components = right.components := by
  simp [same]

theorem same_refl (path : FilePath) : path.same path = true := by simp [same_iff]

theorem same_comm (left right : FilePath) : left.same right = right.same left := by
  rw [Bool.eq_iff_iff, same_iff, same_iff]
  exact eq_comm

theorem same_trans {first second third : FilePath} (left : first.same second = true)
    (right : second.same third = true) : first.same third = true := by
  rw [same_iff] at *
  exact left.trans right

/-- Spellings of one path cannot be told apart by comparing them with another path. -/
theorem same_congr {left right : FilePath} (same : left.same right = true) (other : FilePath) :
    other.same left = other.same right := by
  rw [same_iff] at same
  rw [Bool.eq_iff_iff, same_iff, same_iff, same]

/-- A path that can be followed at all: its text is not empty, and no character ends it early. -/
def isUsable (path : FilePath) : Bool := path.text != "" && !path.text.toList.contains '\x00'

/-- The component that only the beginning of a path can give: the root, or a `.`. -/
def lead (path : FilePath) : List PathComponent :=
  if path.isAbsolute then [.root] else if path.parts.head? = some "." then [.current] else []

theorem components_eq (path : FilePath) : path.components = path.lead ++ ofParts path.parts := by
  unfold components lead
  split
  · rfl
  · split
    · next rest parts => simp [parts, ofParts]
    · next other =>
      have different : path.parts.head? ≠ some "." := by
        intro same
        obtain ⟨rest, parts⟩ := List.head?_eq_some_iff.mp same
        exact other rest parts
      simp [different]

theorem isAbsolute_eq (path : FilePath) : path.isAbsolute = (path.components.head? == some .root) := by
  have parts_only : (ofParts path.parts).head? ≠ some .root := by
    intro same
    have member := List.mem_of_head? same
    simp only [ofParts, List.mem_filterMap] at member
    obtain ⟨part, _, gives⟩ := member
    split at gives
    · simp at gives
    · split at gives <;> simp at gives
  rw [components_eq]
  unfold lead
  by_cases absolute : path.isAbsolute = true
  · simp [absolute]
  · split
    · contradiction
    · split <;> simp [absolute, parts_only]

private theorem join_toList (base rest : FilePath) (relative : rest.isAbsolute = false)
    (nonempty : base.text ≠ "") :
    (∃ front, base.text.toList = front ++ ['/'] ∧ (base.join rest).text.toList = front ++ '/' :: rest.text.toList) ∨
      (base.join rest).text.toList = base.text.toList ++ '/' :: rest.text.toList := by
  by_cases slash : base.text.toList.getLast? = some '/'
  · left
    obtain ⟨front, shape⟩ := List.getLast?_eq_some_iff.mp slash
    refine ⟨front, shape, ?_⟩
    simp [join, relative, shape]
  · right
    simp [join, relative, slash, nonempty]

/-- The parts of a joined path are those of the base, but for an empty last one, and those of the
rest. -/
theorem parts_join (base rest : FilePath) (relative : rest.isAbsolute = false)
    (nonempty : base.text ≠ "") :
    ∃ front, front ≠ [] ∧ (base.parts = front ∨ base.parts = front ++ [""]) ∧
      (base.join rest).parts = front ++ rest.parts := by
  rcases join_toList base rest relative nonempty with ⟨front, shape, joined⟩ | joined
  · refine ⟨(Text.splitChars '/' front).map String.ofList, ?_, .inr ?_, ?_⟩
    · simpa using Text.splitChars_ne_nil '/' front
    · simp [parts, Text.split, shape, Text.splitChars_append_separator, Text.splitChars]
    · simp [parts, Text.split, joined, Text.splitChars_append_separator]
  · refine ⟨base.parts, ?_, .inl rfl, ?_⟩
    · simpa [parts, Text.split] using Text.splitChars_ne_nil '/' base.text.toList
    · simp [parts, Text.split, joined, Text.splitChars_append_separator]

theorem isAbsolute_join (base rest : FilePath) (relative : rest.isAbsolute = false)
    (nonempty : base.text ≠ "") : (base.join rest).isAbsolute = base.isAbsolute := by
  have starts : base.text.toList ≠ [] := by simpa using nonempty
  rcases join_toList base rest relative nonempty with ⟨front, shape, joined⟩ | joined
  · cases front <;> simp [isAbsolute, shape, joined]
  · obtain ⟨head, tail, shape⟩ := List.exists_cons_of_ne_nil starts
    simp [isAbsolute, joined, shape]

/-- The components of a joined path. -/
theorem components_join (base rest : FilePath) (relative : rest.isAbsolute = false)
    (nonempty : base.text ≠ "") :
    (base.join rest).components = base.components ++ ofParts rest.parts := by
  obtain ⟨front, filled, base_parts, joined_parts⟩ := parts_join base rest relative nonempty
  have trailing : ofParts base.parts = ofParts front := by
    rcases base_parts with same | same <;> simp [same, ofParts]
  have lead_join : (base.join rest).lead = base.lead := by
    obtain ⟨head, others, shape⟩ := List.exists_cons_of_ne_nil filled
    have heads : (base.join rest).parts.head? = base.parts.head? := by
      rcases base_parts with same | same <;> simp [joined_parts, same, shape]
    simp only [lead, isAbsolute_join base rest relative nonempty, heads]
  rw [components_eq, components_eq base, lead_join, joined_parts, trailing, ofParts_append,
    List.append_assoc]

private theorem relativePath_toList (names : List String) :
    (relativePath names).toList = Text.joinChars '/' (names.map String.toList) := by
  simp [relativePath, Text.join]

theorem isAbsolute_relativePath (names : List String) (named : ∀ name ∈ names, EntryName name) :
    (FilePath.mk (relativePath names)).isAbsolute = false := by
  cases names with
  | nil => rfl
  | cons name rest =>
    have first := named name (by simp)
    obtain ⟨head, tail, shape⟩ := List.exists_cons_of_ne_nil (l := name.toList) (by simpa using first.nonempty)
    have different : head ≠ '/' := by
      intro same
      exact first.noSeparator (by simp [shape, same])
    cases rest <;> simp [isAbsolute, relativePath_toList, Text.joinChars, shape, different]

theorem parts_relativePath (names : List String) (nonempty : names ≠ [])
    (named : ∀ name ∈ names, EntryName name) : (FilePath.mk (relativePath names)).parts = names :=
  Text.split_join '/' names nonempty fun name member => (named name member).noSeparator

/-- A file below a root: its components are those of the root and the names on the way to it. -/
theorem components_join_relativePath (root : FilePath) (names : List String) (usable : root.text ≠ "")
    (nonempty : names ≠ []) (named : ∀ name ∈ names, EntryName name) :
    (root.join ⟨relativePath names⟩).components = root.components ++ names.map .name := by
  rw [components_join root _ (isAbsolute_relativePath names named) usable,
    parts_relativePath names nonempty named, ofParts_names names named]

theorem isUsable_join_relativePath (root : FilePath) (names : List String)
    (usable : root.isUsable = true) (named : ∀ name ∈ names, EntryName name) :
    (root.join ⟨relativePath names⟩).isUsable = true := by
  have filled : root.text ≠ "" := by
    rintro same
    simp [isUsable, same] at usable
  have clean : '\x00' ∉ root.text.toList := by
    intro member
    simp [isUsable, member] at usable
  have rest_clean : '\x00' ∉ (relativePath names).toList := by
    rw [relativePath_toList]
    intro member
    rcases Text.eq_or_mem_of_mem_joinChars member with same | ⟨piece, present, inside⟩
    · exact absurd same (by decide)
    · obtain ⟨name, listed, rfl⟩ := List.mem_map.mp present
      exact (named name listed).noNull inside
  have relative := isAbsolute_relativePath names named
  rcases join_toList root ⟨relativePath names⟩ relative filled with ⟨front, shape, joined⟩ | joined
  · have front_clean : '\x00' ∉ front := fun member => clean (by simp [shape, member])
    have text_ne : (root.join ⟨relativePath names⟩).text ≠ "" := by
      rintro same
      simp [same] at joined
    simp [isUsable, text_ne, joined, front_clean, rest_clean]
  · have text_ne : (root.join ⟨relativePath names⟩).text ≠ "" := by
      rintro same
      simp [same] at joined
    simp [isUsable, text_ne, joined, clean, rest_clean]

theorem relativeText_names (names : List String) (nonempty : names ≠ []) :
    relativeText (names.map .name) = relativePath names := by
  have texts : (names.map PathComponent.name).filterMap PathComponent.relativeText? = names := by
    simp [List.filterMap_map, Function.comp_def, PathComponent.relativeText?]
  unfold relativeText
  rw [texts]
  cases names with
  | nil => exact absurd rfl nonempty
  | cons name rest => rfl

end FilePath

end RouteExplorer
