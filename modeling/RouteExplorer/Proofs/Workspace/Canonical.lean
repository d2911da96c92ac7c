import RouteExplorer.Proofs.Index.Listing

namespace RouteExplorer

open Glob (PatternSet)

namespace FilePath

/-- A path without detours: it goes by names only from the root. -/
def isDirect (path : FilePath) : Bool := (namesBelow? ⟨"/"⟩ path).isSome

theorem isDirect_iff {path : FilePath} :
    path.isDirect = true ↔ ∃ names : Place, path.components = .root :: names.map .name := by
  rw [isDirect, Option.isSome_iff_exists]
  exact exists_congr fun names => namesBelow?_eq_some

theorem isDirect_congr {left right : FilePath} (same : left.same right = true) : left.isDirect = right.isDirect := by
  rw [Bool.eq_iff_iff, isDirect_iff, isDirect_iff, (same_iff left right).mp same]

/-- What is below a root by names is without detours exactly when the root is. -/
theorem isDirect_of_below {root path : FilePath} {names : Place}
    (shape : path.components = root.components ++ names.map .name) : path.isDirect = root.isDirect := by
  rw [Bool.eq_iff_iff, isDirect_iff, isDirect_iff, shape]
  constructor
  · rintro ⟨all, whole⟩
    cases begins : root.components with
    | nil => cases names <;> simp [begins] at whole
    | cons first rest =>
      rw [begins, List.cons_append, List.cons.injEq] at whole
      obtain ⟨rfl, onwards⟩ := whole
      obtain ⟨front, _, _, above, _⟩ := List.append_eq_map_iff.mp onwards
      exact ⟨front, by rw [above]⟩
  · rintro ⟨front, above⟩
    exact ⟨front ++ names, by simp [above]⟩

end FilePath

namespace Disk

variable {disk : Disk}

/-- The names on the way to a place, from the root down, are names of entries. -/
def Named (place : Place) : Prop := ∀ name ∈ place, EntryName name

theorem Sound.named_of_resolve? (sound : disk.Sound) {path : FilePath} {place : Place}
    (leads : disk.resolve? path = some place) : Named place := by
  by_cases top : place = []
  · simp [Named, top]
  · obtain ⟨entry, lies⟩ := Option.isSome_iff_exists.mp (sound.entry?_isSome leads)
    have member := mem_of_entry? lies top
    exact sound.named _ member

private theorem pathOf_eq_join {place : Place} (named : Named place) :
    pathOf place = (FilePath.mk "/").join ⟨relativePath place⟩ := by
  rw [FilePath.join, FilePath.isAbsolute_relativePath place named]
  simp [pathOf, relativePath]

theorem components_pathOf {place : Place} (named : Named place) :
    (pathOf place).components = .root :: place.map .name := by
  by_cases top : place = []
  · subst top
    decide
  · rw [pathOf_eq_join named, FilePath.components_join_relativePath _ place (by decide) top named]
    rfl

theorem same_pathOf_iff {left right : Place} (left_named : Named left) (right_named : Named right) :
    (pathOf left).same (pathOf right) = true ↔ left = right := by
  rw [FilePath.same_iff, components_pathOf left_named, components_pathOf right_named, List.cons_inj_right]
  exact List.map_inj_right fun _ _ same => PathComponent.name.inj same

/-- The path of a place that is something leads there. -/
theorem Sound.resolve?_pathOf (sound : disk.Sound) {path : FilePath} {place : Place}
    (leads : disk.resolve? path = some place) : disk.resolve? (pathOf place) = some place := by
  have root : disk.resolve? ⟨"/"⟩ = some [] := by
    have directory := isDirectoryAt_nil disk
    simp [resolve?, startOf, FilePath.isAbsolute, FilePath.parts, Text.split, Text.splitChars, follow, directory]
  by_cases top : place = []
  · subst top
    exact root
  · obtain ⟨entry, lies⟩ := Option.isSome_iff_exists.mp (sound.entry?_isSome leads)
    have member := mem_of_entry? lies top
    rw [pathOf_eq_join (sound.named_of_resolve? leads)]
    exact sound.resolve?_join root top member

theorem canonical_of_resolve? {path : FilePath} {place : Place} (leads : disk.resolve? path = some place) :
    disk.canonical path = pathOf place := by
  simp [canonical, leads]

theorem Sound.canonical_canonical (sound : disk.Sound) (path : FilePath) :
    disk.canonical (disk.canonical path) = disk.canonical path := by
  cases leads : disk.resolve? path with
  | none => simp [canonical, leads]
  | some place => rw [canonical_of_resolve? leads, canonical_of_resolve? (sound.resolve?_pathOf leads)]

theorem isDirect_pathOf {place : Place} (named : Named place) : (pathOf place).isDirect = true :=
  FilePath.isDirect_iff.mpr ⟨place, components_pathOf named⟩

/-- Where a path without detours leads, it is the path of that place. -/
theorem Sound.same_pathOf_of_isDirect (sound : disk.Sound) {path : FilePath} {place : Place}
    (direct : path.isDirect = true) (leads : disk.resolve? path = some place) :
    path.same (pathOf place) = true := by
  obtain ⟨names, shape⟩ := FilePath.isDirect_iff.mp direct
  have absolute : path.isAbsolute = true := by simp [FilePath.isAbsolute_eq, shape]
  have walks := walk_of_resolve? leads
  rw [startOf, if_pos absolute, shape] at walks
  -- the root leads from the root to itself
  have onwards : disk.walk [] (names.map .name) = some place := walks
  have target := walk_names onwards
  rw [FilePath.same_iff, components_pathOf (sound.named_of_resolve? leads), shape, target, List.nil_append]

theorem Sound.isDirect_canonical (sound : disk.Sound) (path : FilePath) :
    (disk.canonical path).isDirect = (disk.pathExists path || path.isDirect) := by
  unfold canonical pathExists
  cases leads : disk.resolve? path with
  | none => simp
  | some place => simp [isDirect_pathOf (sound.named_of_resolve? leads)]

/-- A listed file lies below one of the roots, by names, and the root is there. -/
theorem Sound.root_of_listed (sound : disk.Sound) {patterns : PatternSet} {roots : List FilePath}
    {file : FilePath} (member : file ∈ scanRoots disk patterns roots) :
    ∃ root ∈ roots, disk.pathExists root = true ∧
      ∃ names : Place, file.components = root.components ++ names.map .name := by
  obtain ⟨root, known, listed⟩ := mem_scanRoots member
  obtain ⟨place, names, _, leads, _, _, _, nonempty, named, _, _, rfl⟩ := sound.listed_below listed
  have usable := text_ne_of_isUsable (isUsable_of_resolve? leads)
  exact ⟨root, known, by simp [pathExists, leads], names,
    FilePath.components_join_relativePath root names usable nonempty named⟩

/-- The path of a listed file has no detours exactly when the file is below a root that was there as the roots
were rid of their detours, or that was given without any. -/
theorem Sound.isDirect_listed_iff (sound : disk.Sound) {now : Disk} (now_sound : now.Sound)
    {patterns : PatternSet} {roots : List FilePath} {path file : FilePath}
    (listed : file ∈ scanRoots now patterns (roots.map disk.canonical)) (same : path.same file = true) :
    path.isDirect = true ↔
      ∃ root ∈ roots, (disk.pathExists root = true ∨ root.isDirect = true) ∧
        ((disk.canonical root).namesBelow? path).isSome = true := by
  -- whatever is below a root by names is as direct as the root
  have settled {root : FilePath} {names : Place}
      (below : path.components = (disk.canonical root).components ++ names.map .name) :
      path.isDirect = true ↔ disk.pathExists root = true ∨ root.isDirect = true := by
    rw [FilePath.isDirect_of_below below, sound.isDirect_canonical, Bool.or_eq_true]
  constructor
  · intro direct
    obtain ⟨_, known, _, names, below⟩ := now_sound.root_of_listed listed
    obtain ⟨root, given, rfl⟩ := List.mem_map.mp known
    rw [← (FilePath.same_iff path file).mp same] at below
    exact ⟨root, given, (settled below).mp direct,
      Option.isSome_iff_exists.mpr ⟨names, FilePath.namesBelow?_eq_some.mpr below⟩⟩
  · rintro ⟨root, _, there_or_direct, below⟩
    obtain ⟨names, below⟩ := Option.isSome_iff_exists.mp below
    exact (settled (FilePath.namesBelow?_eq_some.mp below)).mpr there_or_direct

/-- A scan over roots without detours lists each file under the path of its place. -/
theorem Sound.listed_canonical (sound : disk.Sound) {patterns : PatternSet} {roots : List FilePath}
    {file : FilePath} (member : file ∈ scanRoots disk patterns (roots.map disk.canonical)) :
    ∃ place, disk.resolve? file = some place ∧ file.same (pathOf place) = true := by
  obtain ⟨root, known, there, names, below⟩ := sound.root_of_listed member
  obtain ⟨given, _, rfl⟩ := List.mem_map.mp known
  obtain ⟨place, _, leads, _⟩ := sound.resolve?_listed member
  -- a root that led nowhere would have been left as it is, and have no files
  have given_there : disk.pathExists given = true := by
    by_contra nowhere
    have stays : disk.canonical given = given := by
      simp only [pathExists, Bool.not_eq_true, Option.isSome_eq_false_iff, Option.isNone_iff_eq_none] at nowhere
      simp [canonical, nowhere]
    exact nowhere (stays ▸ there)
  have direct : file.isDirect = true := by
    rw [FilePath.isDirect_of_below below, sound.isDirect_canonical, given_there, Bool.true_or]
  exact ⟨place, leads, sound.same_pathOf_of_isDirect direct leads⟩

theorem eq_of_same_of_resolve? {left right : FilePath} {first second : Place}
    (same : left.same right = true) (left_leads : disk.resolve? left = some first)
    (right_leads : disk.resolve? right = some second) : first = second := by
  have left_walk := walk_of_resolve? left_leads
  have right_walk := walk_of_resolve? right_leads
  have components := (FilePath.same_iff left right).mp same
  have starts : disk.startOf left = disk.startOf right := by
    simp [startOf, FilePath.isAbsolute_eq, components]
  rw [components, starts, right_walk] at left_walk
  exact (Option.some.inj left_walk).symm

/-- Without its detours a path is the path of a file exactly when it leads to the file, or when the two are
spellings of one path. -/
theorem Sound.same_canonical_iff (sound : disk.Sound) {file : FilePath} {place : Place}
    (leads : disk.resolve? file = some place) (direct : file.same (pathOf place) = true) (path : FilePath) :
    (disk.canonical path).same file = true ↔
      disk.resolve? path = disk.resolve? file ∨ path.same file = true := by
  cases goes : disk.resolve? path with
  | none => simp [canonical, goes, leads]
  | some target =>
    rw [canonical_of_resolve? goes, FilePath.same_congr direct, leads, Option.some.injEq,
      same_pathOf_iff (sound.named_of_resolve? goes) (sound.named_of_resolve? leads)]
    exact (or_iff_left_of_imp fun same => eq_of_same_of_resolve? same goes leads).symm

end Disk

end RouteExplorer
