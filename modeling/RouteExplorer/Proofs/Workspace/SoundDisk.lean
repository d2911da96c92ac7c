import RouteExplorer.Proofs.Workspace.Spelling

/-!
Disks as an operating system keeps them: every entry lies in directories that are there. On such a
disk a path leads to the same directory as its components do, one after another.
-/
namespace RouteExplorer.Disk

/-- A disk without entries at the root, with proper names, with a directory at each place on the way
to an entry, and with one entry at a place. -/
structure Sound (disk : Disk) : Prop where
  placed : ∀ found ∈ disk.entries, found.1 ≠ []
  named : ∀ found ∈ disk.entries, ∀ name ∈ found.1, EntryName name
  rooted : ∀ found ∈ disk.entries, ∀ length < found.1.length,
    disk.isDirectoryAt (found.1.take length) = true
  distinct : (disk.entries.map Prod.fst).Nodup

instance (disk : Disk) : Decidable disk.Sound :=
  decidable_of_iff ((∀ found ∈ disk.entries, found.1 ≠ []) ∧
      (∀ found ∈ disk.entries, ∀ name ∈ found.1, EntryName name) ∧
      (∀ found ∈ disk.entries, ∀ length < found.1.length,
        disk.isDirectoryAt (found.1.take length) = true) ∧
      (disk.entries.map Prod.fst).Nodup)
    ⟨fun ⟨placed, named, rooted, distinct⟩ => ⟨placed, named, rooted, distinct⟩,
    fun sound => ⟨sound.1, sound.2, sound.3, sound.4⟩⟩

variable {disk : Disk}

theorem isDirectoryAt_nil (disk : Disk) : disk.isDirectoryAt [] = true := by
  simp [isDirectoryAt, entry?]

theorem lookup_of_mem {entries : List (Place × DiskEntry)} {found : Place × DiskEntry}
    (distinct : (entries.map Prod.fst).Nodup) (member : found ∈ entries) :
    entries.lookup found.1 = some found.2 := by
  induction entries with
  | nil => simp at member
  | cons head rest ih =>
    obtain ⟨place, entry⟩ := head
    obtain ⟨fresh, later⟩ := List.nodup_cons.mp distinct
    rcases List.mem_cons.mp member with same | older
    · subst same
      simp
    · have different : (found.1 == place) = false := by
        apply beq_false_of_ne
        rintro rfl
        exact fresh (List.mem_map.mpr ⟨found, older, rfl⟩)
      rw [List.lookup_cons, different]
      exact ih later older

theorem Sound.entry?_of_mem (sound : disk.Sound) {found : Place × DiskEntry}
    (member : found ∈ disk.entries) : disk.entry? found.1 = some found.2 := by
  simp [Disk.entry?, sound.placed found member, lookup_of_mem sound.distinct member]

theorem mem_of_entry? {place : Place} {entry : DiskEntry} (found : disk.entry? place = some entry)
    (below : place ≠ []) : (place, entry) ∈ disk.entries := by
  simp only [Disk.entry?, below, ↓reduceIte] at found
  obtain ⟨front, back, shape, _⟩ := List.lookup_eq_some_iff.mp found
  simp [shape]

theorem Sound.isDirectoryAt_dropLast (sound : disk.Sound) {place : Place}
    (directory : disk.isDirectoryAt place = true) : disk.isDirectoryAt place.dropLast = true := by
  by_cases below : place = []
  · simpa [below] using isDirectoryAt_nil disk
  · have found : disk.entry? place = some .directory := by simpa [isDirectoryAt] using directory
    have member := mem_of_entry? found below
    have shorter : place.length - 1 < place.length := by
      have := List.length_pos_iff.mpr below
      omega
    simpa [List.dropLast_eq_take] using sound.rooted _ member _ shorter

/-- Follow one component from a place. -/
def enter (disk : Disk) (place : Place) : PathComponent → Option Place
  | .root | .current => some place
  | .parent => if disk.isDirectoryAt place then some place.dropLast else none
  | .name text =>
    if disk.isDirectoryAt place ∧ (disk.entry? (place ++ [text])).isSome then some (place ++ [text])
    else none

/-- The place that some components lead to. -/
def walk (disk : Disk) (start : Place) (components : List PathComponent) : Option Place :=
  components.foldlM disk.enter start

theorem walk_append (start : Place) (front back : List PathComponent) :
    disk.walk start (front ++ back) = (disk.walk start front).bind fun middle => disk.walk middle back := by
  simp [walk, List.foldlM_append]

private theorem eq_or_directory_of_walk {start place : Place} {components : List PathComponent}
    (leads : disk.walk start components = some place) :
    place = start ∨ disk.isDirectoryAt start = true := by
  induction components with
  | nil => exact .inl (by simpa [walk, eq_comm] using leads)
  | cons component rest ih =>
    by_cases directory : disk.isDirectoryAt start = true
    · exact .inr directory
    · cases component <;> simp [walk, enter, directory] at leads ih
      all_goals exact .inl (ih leads)

private theorem eq_or_directory_of_follow {start place : Place} {parts : List String}
    (leads : parts.foldlM disk.follow start = some place) :
    place = start ∨ disk.isDirectoryAt start = true := by
  cases parts with
  | nil => exact .inl (by simpa [eq_comm] using leads)
  | cons part rest =>
    by_cases directory : disk.isDirectoryAt start = true
    · exact .inr directory
    · simp [follow, directory] at leads

/-- Between directories the parts of a path lead where its components lead. -/
theorem Sound.follow_iff_walk (sound : disk.Sound) {start place : Place} (parts : List String)
    (starts : disk.isDirectoryAt start = true) (ends : disk.isDirectoryAt place = true) :
    parts.foldlM disk.follow start = some place ↔
      disk.walk start (PathComponent.ofParts parts) = some place := by
  induction parts generalizing start with
  | nil => simp [walk, PathComponent.ofParts]
  | cons part rest ih =>
    by_cases idle : part = "" ∨ part = "."
    · have stays : disk.follow start part = some start := by simp [follow, starts, idle]
      have drops : PathComponent.ofParts (part :: rest) = PathComponent.ofParts rest := by
        simp [PathComponent.ofParts, idle]
      rw [drops, ← ih starts]
      simp [stays]
    by_cases up : part = ".."
    · have rises : disk.follow start part = some start.dropLast := by simp [follow, starts, up]
      have keeps : PathComponent.ofParts (part :: rest) = .parent :: PathComponent.ofParts rest := by
        simp [PathComponent.ofParts, up]
      have later := ih (sound.isDirectoryAt_dropLast starts)
      simpa [rises, keeps, walk, enter, starts] using later
    have keeps : PathComponent.ofParts (part :: rest) = .name part :: PathComponent.ofParts rest := by
      simp [PathComponent.ofParts, idle, up]
    by_cases there : (disk.entry? (start ++ [part])).isSome = true
    · have goes : disk.follow start part = some (start ++ [part]) := by
        simp [follow, starts, idle, up, there]
      have enters : disk.enter start (.name part) = some (start ++ [part]) := by
        simp [enter, starts, there]
      by_cases directory : disk.isDirectoryAt (start ++ [part]) = true
      · simpa [goes, keeps, walk, enters] using ih directory
      · -- behind a file both ways end, and neither ends at a directory
        constructor
        · intro leads
          have goes_on : rest.foldlM disk.follow (start ++ [part]) = some place := by simpa [goes] using leads
          rcases eq_or_directory_of_follow goes_on with same | found
          · exact absurd (same ▸ ends) directory
          · exact absurd found directory
        · intro leads
          rcases eq_or_directory_of_walk (by simpa [keeps, walk, enters] using leads) with same | found
          · exact absurd (same ▸ ends) directory
          · exact absurd found directory
    · simp [keeps, walk, enter, follow, starts, idle, up, there]

theorem walk_of_follow {start place : Place} {parts : List String}
    (leads : parts.foldlM disk.follow start = some place) :
    disk.walk start (PathComponent.ofParts parts) = some place := by
  induction parts generalizing start with
  | nil => simpa [walk, PathComponent.ofParts] using leads
  | cons part rest ih =>
    rw [List.foldlM_cons] at leads
    obtain ⟨middle, goes, goes_on⟩ := Option.bind_eq_some_iff.mp leads
    have later := ih goes_on
    unfold follow at goes
    split at goes
    · simp at goes
    next directory =>
    have directory : disk.isDirectoryAt start = true := by simpa using directory
    split at goes
    · next idle =>
      obtain rfl := Option.some.inj goes
      simpa [PathComponent.ofParts, idle] using later
    next busy =>
    split at goes
    · next up =>
      obtain rfl := Option.some.inj goes
      have keeps : PathComponent.ofParts (part :: rest) = .parent :: PathComponent.ofParts rest := by
        simp [PathComponent.ofParts, up]
      rw [keeps]
      simpa [walk, enter, directory] using later
    next down =>
    split at goes
    · next there =>
      obtain rfl := Option.some.inj goes
      have keeps : PathComponent.ofParts (part :: rest) = .name part :: PathComponent.ofParts rest := by
        simp [PathComponent.ofParts, busy, down]
      rw [keeps]
      simpa [walk, enter, directory, there] using later
    · simp at goes

theorem walk_names {place target : Place} {names : List String}
    (leads : disk.walk place (names.map .name) = some target) : target = place ++ names := by
  induction names generalizing place with
  | nil => simpa [walk, eq_comm] using leads
  | cons name rest ih =>
    by_cases enters : disk.isDirectoryAt place = true ∧ (disk.entry? (place ++ [name])).isSome = true
    · have goes_on : disk.walk (place ++ [name]) (rest.map .name) = some target := by
        simpa [walk, enter, enters] using leads
      simpa using ih goes_on
    · simp [walk, enter, enters] at leads

theorem isDirectoryAt_of_walk_names {place target : Place} {names : List String} (nonempty : names ≠ [])
    (leads : disk.walk place (names.map .name) = some target) : disk.isDirectoryAt place = true := by
  obtain ⟨name, rest, shape⟩ := List.exists_cons_of_ne_nil nonempty
  by_cases directory : disk.isDirectoryAt place = true
  · exact directory
  · simp [shape, walk, enter, directory] at leads

theorem Sound.follows_names (sound : disk.Sound) {place : Place} {names : List String} {entry : DiskEntry}
    (member : (place ++ names, entry) ∈ disk.entries) :
    disk.walk place (names.map .name) = some (place ++ names) ∧
      names.foldlM disk.follow place = some (place ++ names) := by
  induction names generalizing place with
  | nil => simp [walk]
  | cons name rest ih =>
    have proper := sound.named _ member name (by simp)
    have directory : disk.isDirectoryAt place = true := by
      have := sound.rooted _ member place.length (by simp)
      simpa using this
    have there : (disk.entry? (place ++ [name])).isSome = true := by
      cases rest with
      | nil => simp [sound.entry?_of_mem member]
      | cons next others =>
        have := sound.rooted _ member (place.length + 1) (by simp)
        have found : disk.isDirectoryAt (place ++ [name]) = true := by
          simpa [List.take_append, List.take_of_length_le] using this
        simp only [isDirectoryAt, beq_iff_eq] at found
        simp [found]
    have deeper : ((place ++ [name]) ++ rest, entry) ∈ disk.entries := by simpa using member
    obtain ⟨walks, follows⟩ := ih deeper
    have steps : disk.follow place name = some (place ++ [name]) := by
      simp [follow, directory, proper.nonempty, proper.notCurrent, proper.notParent, there]
    constructor
    · simpa [walk, enter, directory, there] using walks
    · simpa [steps] using follows

theorem resolve?_eq (path : FilePath) :
    disk.resolve? path =
      if path.isUsable then path.parts.foldlM disk.follow (disk.startOf path) else none := by
  by_cases empty : path.text = ""
  · simp [resolve?, FilePath.isUsable, empty]
  · by_cases null : '\x00' ∈ path.text.toList <;> simp [resolve?, FilePath.isUsable, empty, null]

theorem isDirectoryAt_startOf {path : FilePath} {place : Place} (leads : disk.resolve? path = some place) :
    disk.isDirectoryAt (disk.startOf path) = true := by
  rw [resolve?_eq] at leads
  split at leads
  · obtain ⟨part, rest, shape⟩ := List.exists_cons_of_ne_nil (l := path.parts)
      (by simpa [FilePath.parts, Text.split] using Text.splitChars_ne_nil '/' path.text.toList)
    by_cases directory : disk.isDirectoryAt (disk.startOf path) = true
    · exact directory
    · simp [shape, follow, directory] at leads
  · simp at leads

private theorem Sound.entry?_isSome_of_follow (sound : disk.Sound) {start place : Place} {parts : List String}
    (there : (disk.entry? start).isSome = true) (leads : parts.foldlM disk.follow start = some place) :
    (disk.entry? place).isSome = true := by
  induction parts generalizing start with
  | nil =>
    obtain rfl : start = place := by simpa using leads
    exact there
  | cons part rest ih =>
    rw [List.foldlM_cons] at leads
    obtain ⟨middle, goes, goes_on⟩ := Option.bind_eq_some_iff.mp leads
    refine ih ?_ goes_on
    unfold follow at goes
    split at goes
    · simp at goes
    next directory =>
    split at goes
    · rwa [← Option.some.inj goes]
    split at goes
    · have directory : disk.isDirectoryAt start = true := by simpa using directory
      have above := sound.isDirectoryAt_dropLast directory
      rw [isDirectoryAt, beq_iff_eq] at above
      simp [← Option.some.inj goes, above]
    split at goes
    · next found => rwa [← Option.some.inj goes]
    · simp at goes

theorem Sound.entry?_isSome (sound : disk.Sound) {path : FilePath} {place : Place}
    (leads : disk.resolve? path = some place) : (disk.entry? place).isSome = true := by
  have starts := isDirectoryAt_startOf leads
  rw [isDirectoryAt, beq_iff_eq] at starts
  rw [resolve?_eq] at leads
  split at leads
  · exact sound.entry?_isSome_of_follow (by simp [starts]) leads
  · simp at leads

private theorem walk_components (start : Place) (path : FilePath) :
    disk.walk start path.components = disk.walk start (PathComponent.ofParts path.parts) := by
  have idle : disk.walk start path.lead = some start := by
    unfold FilePath.lead
    split
    · rfl
    · split <;> rfl
  rw [FilePath.components_eq, walk_append, idle, Option.bind_some]

/-- What a path leads to, its components lead to as well. -/
theorem walk_of_resolve? {path : FilePath} {place : Place} (leads : disk.resolve? path = some place) :
    disk.walk (disk.startOf path) path.components = some place := by
  rw [resolve?_eq] at leads
  split at leads
  · rw [walk_components]
    exact walk_of_follow leads
  · simp at leads

/-- A path leads to a directory exactly when its components do. -/
theorem Sound.resolve?_iff_walk (sound : disk.Sound) {path : FilePath} {place : Place}
    (usable : path.isUsable = true) (starts : disk.isDirectoryAt (disk.startOf path) = true)
    (ends : disk.isDirectoryAt place = true) :
    disk.resolve? path = some place ↔ disk.walk (disk.startOf path) path.components = some place := by
  rw [resolve?_eq, usable, walk_components]
  simpa using sound.follow_iff_walk path.parts starts ends

theorem exists_entry_of_isFile {path : FilePath} (file : disk.isFile path = true) :
    ∃ place entry, disk.resolve? path = some place ∧ disk.entry? place = some entry ∧
      entry ≠ .directory := by
  unfold isFile entryOf? at file
  cases leads : disk.resolve? path with
  | none => simp [leads] at file
  | some place =>
    cases lies : disk.entry? place with
    | none => simp [leads, lies] at file
    | some entry =>
      refine ⟨place, entry, rfl, lies, ?_⟩
      rintro rfl
      simp [leads, lies] at file

theorem isUsable_of_resolve? {path : FilePath} {place : Place} (leads : disk.resolve? path = some place) :
    path.isUsable = true := by
  rw [resolve?_eq] at leads
  by_cases usable : path.isUsable = true
  · exact usable
  · simp [usable] at leads

theorem text_ne_of_isUsable {path : FilePath} (usable : path.isUsable = true) : path.text ≠ "" := by
  rintro same
  simp [FilePath.isUsable, same] at usable

theorem startOf_join {root : FilePath} {names : List String} (usable : root.isUsable = true)
    (named : ∀ name ∈ names, EntryName name) :
    disk.startOf (root.join ⟨relativePath names⟩) = disk.startOf root := by
  have starts := FilePath.isAbsolute_join root _ (FilePath.isAbsolute_relativePath names named)
    (text_ne_of_isUsable usable)
  simp [startOf, starts]

/-- Where a path starts can be told by the components that names follow. -/
theorem startOf_of_components {root path : FilePath} {names : List String}
    (shape : path.components = root.components ++ names.map .name) (nonempty : names ≠ []) :
    disk.startOf root = disk.startOf path := by
  have starts : root.isAbsolute = path.isAbsolute := by
    rw [FilePath.isAbsolute_eq, FilePath.isAbsolute_eq, shape]
    cases leading : root.components with
    | nil =>
      obtain ⟨name, rest, rfl⟩ := List.exists_cons_of_ne_nil nonempty
      simp
    | cons head tail => simp
  simp [startOf, starts]

/-- The path of a file below a root leads to that file. -/
theorem Sound.resolve?_join (sound : disk.Sound) {root : FilePath} {place names : Place}
    {entry : DiskEntry} (leads : disk.resolve? root = some place) (nonempty : names ≠ [])
    (member : (place ++ names, entry) ∈ disk.entries) :
    disk.resolve? (root.join ⟨relativePath names⟩) = some (place ++ names) := by
  have usable := isUsable_of_resolve? leads
  have named : ∀ name ∈ names, EntryName name :=
    fun name present => sound.named _ member name (List.mem_append_right _ present)
  have relative := FilePath.isAbsolute_relativePath names named
  obtain ⟨front, _, root_parts, joined_parts⟩ :=
    FilePath.parts_join root ⟨relativePath names⟩ relative (text_ne_of_isUsable usable)
  have reached : front.foldlM disk.follow (disk.startOf root) = some place := by
    rw [resolve?_eq, usable] at leads
    rcases root_parts with same | same
    · simpa [same] using leads
    · simp only [same, ↓reduceIte, List.foldlM_append, List.foldlM_cons, List.foldlM_nil] at leads
      cases before : front.foldlM disk.follow (disk.startOf root) with
      | none => simp [before] at leads
      | some middle =>
        by_cases directory : disk.isDirectoryAt middle = true
        · simpa [before, follow, directory] using leads
        · simp [before, follow, directory] at leads
  rw [resolve?_eq, FilePath.isUsable_join_relativePath root names usable named, startOf_join usable named,
    joined_parts, FilePath.parts_relativePath names nonempty named]
  simpa [List.foldlM_append, reached] using (sound.follows_names member).2

theorem Sound.walk_join (sound : disk.Sound) {root : FilePath} {place names : Place}
    {entry : DiskEntry} (leads : disk.resolve? root = some place)
    (directory : disk.isDirectoryAt place = true) (nonempty : names ≠ [])
    (member : (place ++ names, entry) ∈ disk.entries) :
    disk.walk (disk.startOf root) (root.join ⟨relativePath names⟩).components = some (place ++ names) := by
  have usable := isUsable_of_resolve? leads
  have named : ∀ name ∈ names, EntryName name :=
    fun name present => sound.named _ member name (List.mem_append_right _ present)
  have reached := (sound.resolve?_iff_walk usable (isDirectoryAt_startOf leads) directory).mp leads
  rw [FilePath.components_join_relativePath root names (text_ne_of_isUsable usable) nonempty named,
    walk_append, reached, Option.bind_some]
  exact (sound.follows_names member).1

end RouteExplorer.Disk
