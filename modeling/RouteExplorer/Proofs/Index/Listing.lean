import Mathlib.Data.List.Induction
import RouteExplorer.Proofs.Workspace.SoundDisk

namespace RouteExplorer

open Glob (PatternSet)

private theorem distinctPaths_concat (paths : List FilePath) (path : FilePath) :
    distinctPaths (paths ++ [path]) =
      if (distinctPaths paths).any (·.same path) then distinctPaths paths
      else distinctPaths paths ++ [path] := by
  simp [distinctPaths, List.foldl_append]

theorem mem_of_mem_distinctPaths {paths : List FilePath} {path : FilePath}
    (member : path ∈ distinctPaths paths) : path ∈ paths := by
  induction paths using List.reverseRecOn with
  | nil => simp [distinctPaths] at member
  | append_singleton front last ih =>
    rw [distinctPaths_concat] at member
    split at member
    · exact List.mem_append_left _ (ih member)
    · rcases List.mem_append.mp member with kept | added
      · exact List.mem_append_left _ (ih kept)
      · exact List.mem_append_right _ added

theorem exists_same_of_mem {paths : List FilePath} {path : FilePath} (member : path ∈ paths) :
    ∃ kept ∈ distinctPaths paths, kept.same path = true := by
  induction paths using List.reverseRecOn with
  | nil => simp at member
  | append_singleton front last ih =>
    rw [distinctPaths_concat]
    rcases List.mem_append.mp member with earlier | added
    · obtain ⟨kept, present, same⟩ := ih earlier
      split
      · exact ⟨kept, present, same⟩
      · exact ⟨kept, List.mem_append_left _ present, same⟩
    · have last_eq : path = last := by simpa using added
      subst last_eq
      split
      · next found => simpa using found
      · exact ⟨path, by simp, FilePath.same_refl path⟩

theorem find?_of_mem_distinctPaths {paths : List FilePath} {path : FilePath}
    (member : path ∈ distinctPaths paths) : paths.find? (·.same path) = some path := by
  induction paths using List.reverseRecOn with
  | nil => simp [distinctPaths] at member
  | append_singleton front last ih =>
    rw [distinctPaths_concat] at member
    split at member
    · simp [List.find?_append, ih member]
    · next absent =>
      rcases List.mem_append.mp member with kept | added
      · simp [List.find?_append, ih kept]
      · have last_eq : path = last := by simpa using added
        subst last_eq
        have unseen : front.find? (·.same path) = none := by
          apply List.find?_eq_none.mpr
          intro other present same
          obtain ⟨kept, stays, spelled⟩ := exists_same_of_mem present
          exact absent (List.any_eq_true.mpr ⟨kept, stays, FilePath.same_trans spelled same⟩)
        simp [List.find?_append, unseen, FilePath.same_refl]

theorem pairwise_distinctPaths (paths : List FilePath) :
    (distinctPaths paths).Pairwise fun left right => left.same right = false := by
  induction paths using List.reverseRecOn with
  | nil => simp [distinctPaths]
  | append_singleton front last ih =>
    rw [distinctPaths_concat]
    split
    · exact ih
    · next absent =>
      rw [List.pairwise_append]
      refine ⟨ih, by simp, ?_⟩
      intro kept present other added
      have last_eq : other = last := by simpa using added
      subst last_eq
      simpa using fun same => absent (List.any_eq_true.mpr ⟨kept, present, same⟩)

theorem distinctPaths_append (front back : List FilePath) :
    distinctPaths (front ++ back) =
      distinctPaths front ++ (distinctPaths back).filter fun path => !front.any (·.same path) := by
  have kept (path : FilePath) : (distinctPaths front).any (·.same path) = front.any (·.same path) := by
    rw [Bool.eq_iff_iff, List.any_eq_true, List.any_eq_true]
    constructor
    · rintro ⟨found, member, same⟩
      exact ⟨found, mem_of_mem_distinctPaths member, same⟩
    · rintro ⟨found, member, same⟩
      obtain ⟨stays, present, spelled⟩ := exists_same_of_mem member
      exact ⟨stays, present, FilePath.same_trans spelled same⟩
  induction back using List.reverseRecOn with
  | nil => simp [distinctPaths]
  | append_singleton back last ih =>
    rw [← List.append_assoc, distinctPaths_concat, ih, distinctPaths_concat, List.any_append, kept]
    by_cases known : front.any (·.same last) = true
    · rw [known, Bool.true_or, if_pos rfl]
      split
      · rfl
      · simp [List.filter_append, known]
    -- a spelling of the last path that is kept behind the front is none of a path in the front
    have stays : ((distinctPaths back).filter fun path => !front.any (·.same path)).any (·.same last) =
        (distinctPaths back).any (·.same last) := by
      rw [List.any_filter, Bool.eq_iff_iff, List.any_eq_true, List.any_eq_true]
      constructor
      · rintro ⟨found, member, passes⟩
        exact ⟨found, member, (Bool.and_eq_true_iff.mp passes).2⟩
      · rintro ⟨found, member, same⟩
        have unknown : front.any (·.same found) = false := by
          simpa only [FilePath.same_congr same] using Bool.eq_false_iff.mpr known
        exact ⟨found, member, by rw [unknown, same]; rfl⟩
    rw [stays, Bool.eq_false_iff.mpr known, Bool.false_or]
    split
    · rfl
    · simp [List.filter_append, known]

theorem distinctPaths_eq_self {paths : List FilePath}
    (distinct : paths.Pairwise fun left right => left.same right = false) : distinctPaths paths = paths := by
  induction paths using List.reverseRecOn with
  | nil => rfl
  | append_singleton front last ih =>
    obtain ⟨earlier, _, apart⟩ := List.pairwise_append.mp distinct
    have absent : front.any (·.same last) = false := by simpa using apart
    rw [distinctPaths_concat, ih earlier, absent]
    rfl

theorem find?_same_of_mem {paths : List FilePath} {path : FilePath}
    (distinct : paths.Pairwise fun left right => left.same right = false) (member : path ∈ paths) :
    paths.find? (·.same path) = some path := by
  induction paths with
  | nil => simp at member
  | cons first rest ih =>
    obtain ⟨apart, later⟩ := List.pairwise_cons.mp distinct
    rcases List.mem_cons.mp member with rfl | behind
    · simp [FilePath.same_refl]
    · simp [apart path behind, ih later behind]

theorem mem_filesBelow {disk : Disk} {place names : Place} :
    names ∈ disk.filesBelow place ↔
      ∃ entry, (place ++ names, entry) ∈ disk.entries ∧ entry ≠ .directory := by
  simp only [Disk.filesBelow, List.mem_filterMap]
  constructor
  · rintro ⟨⟨found, entry⟩, member, kept⟩
    split at kept
    · next selected =>
      obtain ⟨rest, shape⟩ := List.isPrefixOf_iff_prefix.mp selected.2
      subst shape
      obtain rfl : rest = names := by simpa using kept
      exact ⟨entry, member, selected.1⟩
    · simp at kept
  · rintro ⟨entry, member, file⟩
    refine ⟨(place ++ names, entry), member, ?_⟩
    simp [file]

theorem Disk.Sound.names_of_filesBelow {disk : Disk} (sound : disk.Sound) {place names : Place}
    (directory : disk.isDirectoryAt place = true) (found : names ∈ disk.filesBelow place) :
    names ≠ [] ∧ ∀ name ∈ names, EntryName name := by
  obtain ⟨entry, member, file⟩ := mem_filesBelow.mp found
  constructor
  · rintro rfl
    have lies := sound.entry?_of_mem member
    simp only [List.append_nil] at lies
    simp only [Disk.isDirectoryAt, lies, beq_iff_eq, Option.some.injEq] at directory
    exact file directory
  · intro name present
    exact sound.named _ member name (List.mem_append_right _ present)

theorem mem_scanRoot {disk : Disk} {patterns : PatternSet} {root path : FilePath} :
    path ∈ scanRoot disk patterns root ↔
      ∃ place names, disk.resolve? root = some place ∧ disk.isDirectoryAt place = true ∧
        names ∈ disk.filesBelow place ∧ isVisited patterns names = true ∧
        patterns.selects (relativePath names) = true ∧ path = root.join ⟨relativePath names⟩ := by
  simp only [scanRoot, selectedBelow, List.mem_map]
  constructor
  · rintro ⟨relative, selected, rfl⟩
    split at selected
    · simp at selected
    · next place leads =>
      split at selected
      · next directory =>
        simp only [List.mem_mergeSort, List.mem_filter, List.mem_map] at selected
        obtain ⟨⟨names, ⟨found, visited⟩, rfl⟩, chosen⟩ := selected
        exact ⟨place, names, leads, directory, found, visited, chosen, rfl⟩
      · simp at selected
  · rintro ⟨place, names, leads, directory, found, visited, chosen, rfl⟩
    refine ⟨relativePath names, ?_, rfl⟩
    simp only [leads, directory, ↓reduceIte, List.mem_mergeSort, List.mem_filter, List.mem_map]
    exact ⟨⟨names, ⟨found, visited⟩, rfl⟩, chosen⟩

/-- What a scan lists below a root are files, and their paths lead to them. -/
theorem Disk.Sound.listed_below {disk : Disk} (sound : disk.Sound) {patterns : PatternSet}
    {root path : FilePath} (member : path ∈ scanRoot disk patterns root) :
    ∃ place names entry, disk.resolve? root = some place ∧ disk.isDirectoryAt place = true ∧
      (place ++ names, entry) ∈ disk.entries ∧ entry ≠ .directory ∧ names ≠ [] ∧
      (∀ name ∈ names, EntryName name) ∧ isVisited patterns names = true ∧
      patterns.selects (relativePath names) = true ∧ path = root.join ⟨relativePath names⟩ := by
  obtain ⟨place, names, leads, directory, found, visited, chosen, shape⟩ := mem_scanRoot.mp member
  obtain ⟨entry, lies, file⟩ := mem_filesBelow.mp found
  obtain ⟨nonempty, named⟩ := sound.names_of_filesBelow directory found
  exact ⟨place, names, entry, leads, directory, lies, file, nonempty, named, visited, chosen, shape⟩

theorem mem_scanRoots {disk : Disk} {patterns : PatternSet} {roots : List FilePath} {path : FilePath}
    (member : path ∈ scanRoots disk patterns roots) :
    ∃ root ∈ roots, path ∈ scanRoot disk patterns root :=
  List.mem_flatMap.mp (mem_of_mem_distinctPaths member)

theorem Disk.Sound.resolve?_listed {disk : Disk} (sound : disk.Sound) {patterns : PatternSet}
    {roots : List FilePath} {path : FilePath} (member : path ∈ scanRoots disk patterns roots) :
    ∃ place entry, disk.resolve? path = some place ∧ (place, entry) ∈ disk.entries ∧ entry ≠ .directory := by
  obtain ⟨root, _, listed⟩ := mem_scanRoots member
  obtain ⟨place, names, entry, leads, _, lies, file, nonempty, _, _, _, rfl⟩ := sound.listed_below listed
  exact ⟨place ++ names, entry, sound.resolve?_join leads nonempty lies, lies, file⟩

def PathComponent.name? : PathComponent → Option String
  | .name text => some text
  | _ => none

/-- The names that follow a root in a path, if nothing but names does. -/
def FilePath.namesBelow? (root path : FilePath) : Option Place :=
  (componentsBelow? root path).bind fun components => components.mapM PathComponent.name?

private theorem mapM_name?_eq_some {components : List PathComponent} {names : Place} :
    components.mapM PathComponent.name? = some names ↔ components = names.map .name := by
  induction components generalizing names with
  | nil => cases names <;> simp
  | cons component rest ih =>
    cases component with
    | name text =>
      cases names with
      | nil => simp [PathComponent.name?, Option.bind_eq_some_iff]
      | cons name others => simp [PathComponent.name?, Option.bind_eq_some_iff, ih, and_comm]
    | _ => cases names <;> simp [PathComponent.name?]

theorem FilePath.namesBelow?_eq_some {root path : FilePath} {names : Place} :
    root.namesBelow? path = some names ↔ path.components = root.components ++ names.map .name := by
  unfold namesBelow? componentsBelow?
  split
  · next below =>
    obtain ⟨rest, shape⟩ := List.isPrefixOf_iff_prefix.mp below
    simp [← shape, mapM_name?_eq_some]
  · next apart =>
    simp only [Option.bind_none, reduceCtorEq, false_iff]
    intro shape
    exact apart (by simp [shape])

/-- The spelling under which a walk below a root lists a path, if there is such a file. -/
def spellingBelow? (patterns : PatternSet) (root path : FilePath) : Option FilePath :=
  if root.isUsable then
    ((root.namesBelow? path).filter fun names =>
      !names.isEmpty && isVisited patterns names && patterns.selects (relativePath names)).map
      fun names => root.join ⟨relativePath names⟩
  else none

/-- The spelling under which a scan lists a path, if there is such a file. -/
def spelling? (patterns : PatternSet) (roots : List FilePath) (path : FilePath) : Option FilePath :=
  roots.findSome? fun root => spellingBelow? patterns root path

theorem spelling?_congr (patterns : PatternSet) (roots : List FilePath) {left right : FilePath}
    (same : left.same right = true) : spelling? patterns roots left = spelling? patterns roots right := by
  rw [FilePath.same_iff] at same
  simp [spelling?, spellingBelow?, FilePath.namesBelow?, FilePath.componentsBelow?, same]

theorem spellingBelow?_eq_some {patterns : PatternSet} {root path spelled : FilePath} :
    spellingBelow? patterns root path = some spelled ↔
      ∃ names, root.isUsable = true ∧ path.components = root.components ++ names.map .name ∧
        names ≠ [] ∧ isVisited patterns names = true ∧
        patterns.selects (relativePath names) = true ∧ spelled = root.join ⟨relativePath names⟩ := by
  unfold spellingBelow?
  split
  · next usable =>
    simp only [Option.map_eq_some_iff, Option.filter_eq_some_iff, FilePath.namesBelow?_eq_some]
    constructor
    · rintro ⟨names, ⟨shape, kept⟩, rfl⟩
      simp only [Bool.and_eq_true, Bool.not_eq_true', List.isEmpty_eq_false_iff] at kept
      exact ⟨names, usable, shape, kept.1.1, kept.1.2, kept.2, rfl⟩
    · rintro ⟨names, _, shape, nonempty, visited, chosen, rfl⟩
      exact ⟨names, ⟨shape, by simp [nonempty, visited, chosen]⟩, rfl⟩
  · next unusable => simp [unusable]

private theorem spellingBelow?_of_mem_scanRoot {disk : Disk} (sound : disk.Sound) {patterns : PatternSet}
    {root path : FilePath} (member : path ∈ scanRoot disk patterns root) :
    spellingBelow? patterns root path = some path := by
  obtain ⟨place, names, _, leads, _, _, _, nonempty, named, visited, chosen, rfl⟩ := sound.listed_below member
  have usable := Disk.isUsable_of_resolve? leads
  refine spellingBelow?_eq_some.mpr ⟨names, usable, ?_, nonempty, visited, chosen, rfl⟩
  exact FilePath.components_join_relativePath root names (Disk.text_ne_of_isUsable usable) nonempty named

private theorem mem_scanRoot_of_spellingBelow? {disk : Disk} (sound : disk.Sound) {patterns : PatternSet}
    {root other path spelled : FilePath} (member : path ∈ scanRoot disk patterns other)
    (spells : spellingBelow? patterns root path = some spelled) :
    spelled ∈ scanRoot disk patterns root ∧ spelled.same path = true := by
  obtain ⟨below, rest, entry, leads, directory, lies, file, rest_nonempty, rest_named, _, _, rfl⟩ :=
    sound.listed_below member
  obtain ⟨names, usable, shape, nonempty, visited, chosen, rfl⟩ := spellingBelow?_eq_some.mp spells
  have other_usable := Disk.isUsable_of_resolve? leads
  have walks := sound.walk_join leads directory rest_nonempty lies
  -- both roots start where the path starts
  have starts : disk.startOf root = disk.startOf other := by
    have joined : disk.startOf (other.join ⟨relativePath rest⟩) = disk.startOf other :=
      Disk.startOf_join other_usable rest_named
    rw [← joined]
    exact Disk.startOf_of_components shape nonempty
  rw [shape, Disk.walk_append, ← starts] at walks
  cases reached : disk.walk (disk.startOf root) root.components with
  | none => simp [reached] at walks
  | some place =>
    simp only [reached, Option.bind_some] at walks
    have root_directory := Disk.isDirectoryAt_of_walk_names nonempty walks
    have target := Disk.walk_names walks
    have begins : disk.isDirectoryAt (disk.startOf root) = true := starts ▸ Disk.isDirectoryAt_startOf leads
    have resolved := (sound.resolve?_iff_walk usable begins root_directory).mpr reached
    have found : names ∈ disk.filesBelow place := mem_filesBelow.mpr ⟨entry, target ▸ lies, file⟩
    have named := (sound.names_of_filesBelow root_directory found).2
    refine ⟨mem_scanRoot.mpr ⟨place, names, resolved, root_directory, found, visited, chosen, rfl⟩, ?_⟩
    rw [FilePath.same_iff, shape]
    exact FilePath.components_join_relativePath root names (Disk.text_ne_of_isUsable usable) nonempty named

/-- A scan lists a file under the spelling that patterns and roots give it, whatever the disk. -/
theorem spelling?_of_mem_scanRoots {disk : Disk} (sound : disk.Sound) {patterns : PatternSet}
    {roots : List FilePath} {path : FilePath} (member : path ∈ scanRoots disk patterns roots) :
    spelling? patterns roots path = some path := by
  have first := find?_of_mem_distinctPaths member
  clear member
  induction roots with
  | nil => simp at first
  | cons root rest ih =>
    simp only [List.flatMap_cons, List.find?_append] at first
    simp only [spelling?, List.findSome?_cons]
    cases own : (scanRoot disk patterns root).find? (·.same path) with
    | some found =>
      obtain rfl : found = path := by simpa [own] using first
      simp [spellingBelow?_of_mem_scanRoot sound (List.mem_of_find?_eq_some own)]
    | none =>
      rw [own, Option.none_or] at first
      obtain ⟨other, _, listed⟩ := List.mem_flatMap.mp (List.mem_of_find?_eq_some first)
      cases spells : spellingBelow? patterns root path with
      | none => exact ih first
      | some spelled =>
        obtain ⟨present, same⟩ := mem_scanRoot_of_spellingBelow? sound listed spells
        exact absurd same (List.find?_eq_none.mp own spelled present)

theorem isEligible_congr (roots : List FilePath) (patterns : PatternSet) {left right : FilePath}
    (same : left.same right = true) : isEligible roots patterns left = isEligible roots patterns right := by
  rw [FilePath.same_iff] at same
  simp [isEligible, FilePath.below?, FilePath.componentsBelow?, same]

theorem isEligible_of_spelling? {patterns : PatternSet} {roots : List FilePath} {path spelled : FilePath}
    (spells : spelling? patterns roots path = some spelled) : isEligible roots patterns path = true := by
  obtain ⟨root, member, below⟩ := List.exists_of_findSome?_eq_some spells
  obtain ⟨names, _, shape, nonempty, _, chosen, _⟩ := spellingBelow?_eq_some.mp below
  apply List.any_eq_true.mpr
  refine ⟨root, member, ?_⟩
  simp [FilePath.below?, FilePath.componentsBelow?, shape, FilePath.relativeText_names names nonempty, chosen]

end RouteExplorer
