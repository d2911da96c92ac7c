import RouteExplorer.Proofs.Workspace.SoundDisk

namespace RouteExplorer

namespace Disk

def HasFile (disk : Disk) (place : Place) : Prop :=
  ∃ entry, disk.entry? place = some entry ∧ entry ≠ .directory

/-- An entry can be put at a place: it is below the root, in a directory, and properly named. -/
structure Accepts (disk : Disk) (place : Place) : Prop where
  below : place ≠ []
  named : ∀ name ∈ place, EntryName name
  parent : disk.isDirectoryAt place.dropLast = true

def erase (disk : Disk) (place : Place) : Disk :=
  { disk with entries := disk.entries.filter fun kept => kept.1 != place }

variable {disk : Disk} {place : Place}

theorem HasFile.below (file : disk.HasFile place) : place ≠ [] := by
  obtain ⟨entry, found, other⟩ := file
  rintro rfl
  simp only [Disk.entry?, ↓reduceIte, Option.some.injEq] at found
  exact other found.symm

theorem HasFile.isDirectoryAt (file : disk.HasFile place) : disk.isDirectoryAt place = false := by
  obtain ⟨entry, found, other⟩ := file
  simp [Disk.isDirectoryAt, found, other]

theorem HasFile.accepts (sound : disk.Sound) (file : disk.HasFile place) : disk.Accepts place := by
  have below := file.below
  obtain ⟨entry, found, _⟩ := file
  have member := mem_of_entry? found below
  have shorter : place.length - 1 < place.length := by
    have := List.length_pos_iff.mpr below
    omega
  refine ⟨below, sound.named _ member, ?_⟩
  simpa [List.dropLast_eq_take] using sound.rooted _ member _ shorter

private theorem lookup_filter_ne (entries : List (Place × DiskEntry)) (place other : Place) :
    (entries.filter fun kept => kept.1 != place).lookup other =
      if other = place then none else entries.lookup other := by
  induction entries with
  | nil => simp
  | cons head rest ih =>
    obtain ⟨first, entry⟩ := head
    by_cases same : first = place
    · rw [List.filter_cons_of_neg (by simp [same]), ih]
      split
      · rfl
      · next different => rw [List.lookup_cons, beq_false_of_ne (same ▸ different)]
    · rw [List.filter_cons_of_pos (by simpa using same), List.lookup_cons, List.lookup_cons, ih]
      cases here : other == first with
      | true =>
        have different : other ≠ place := fun equal => same ((beq_iff_eq.mp here).symm.trans equal)
        simp [different]
      | false => rfl

theorem entry?_erase (below : place ≠ []) (other : Place) :
    Disk.entry? (disk.erase place) other = if other = place then none else disk.entry? other := by
  unfold entry? erase
  by_cases root : other = []
  · simp [root, Ne.symm below]
  · simp only [root, ↓reduceIte]
    exact lookup_filter_ne disk.entries place other

theorem entry?_put (below : place ≠ []) (entry : DiskEntry) (other : Place) :
    Disk.entry? (disk.put place entry) other = if other = place then some entry else disk.entry? other := by
  by_cases same : other = place
  · subst same
    simp [Disk.entry?, put, below]
  · have erased : Disk.entry? (disk.erase place) other = _ := entry?_erase below other
    rw [if_neg same] at erased ⊢
    rw [← erased]
    simp only [Disk.entry?, put, erase, List.lookup_cons, beq_false_of_ne same]

theorem isDirectoryAt_erase (below : place ≠ []) (file : disk.isDirectoryAt place = false) (other : Place) :
    (disk.erase place).isDirectoryAt other = disk.isDirectoryAt other := by
  by_cases same : other = place
  · subst same
    rw [file]
    simp [isDirectoryAt, entry?_erase below]
  · simp [isDirectoryAt, entry?_erase below, same]

theorem isDirectoryAt_put (below : place ≠ []) (file : disk.isDirectoryAt place = false) {entry : DiskEntry}
    (other_than : entry ≠ .directory) (other : Place) :
    (disk.put place entry).isDirectoryAt other = disk.isDirectoryAt other := by
  by_cases same : other = place
  · subst same
    rw [file]
    simp [isDirectoryAt, entry?_put below, other_than]
  · simp [isDirectoryAt, entry?_put below, same]

theorem remove_eq_erase (sound : disk.Sound) (file : disk.isDirectoryAt place = false) :
    disk.remove place = disk.erase place := by
  unfold remove erase
  congr 1
  apply List.filter_congr
  intro found member
  by_cases same : found.1 = place
  · simp [same]
  · have apart : place.isPrefixOf found.1 = false := by
      apply Bool.eq_false_iff.mpr
      intro leads
      have begins := List.isPrefixOf_iff_prefix.mp leads
      have shorter : place.length < found.1.length := by
        refine Nat.lt_of_le_of_ne begins.length_le fun equal => same ?_
        exact (begins.eq_of_length equal).symm
      have directory := sound.rooted found member place.length shorter
      rw [← List.prefix_iff_eq_take.mp begins, file] at directory
      exact absurd directory (by simp)
    simp [apart, same]

theorem Sound.erase (sound : disk.Sound) (below : place ≠ []) (file : disk.isDirectoryAt place = false) :
    (disk.erase place).Sound where
  placed found member := sound.placed found (List.mem_filter.mp member).1
  named found member := sound.named found (List.mem_filter.mp member).1
  rooted found member length shorter := by
    rw [isDirectoryAt_erase below file]
    exact sound.rooted found (List.mem_filter.mp member).1 length shorter
  distinct := sound.distinct.sublist (List.filter_sublist.map Prod.fst)

theorem Sound.isDirectoryAt_take (sound : disk.Sound) (accepts : disk.Accepts place) {length : Nat}
    (shorter : length < place.length) : disk.isDirectoryAt (place.take length) = true := by
  have parent := accepts.parent
  by_cases last : length = place.length - 1
  · rwa [last, ← List.dropLast_eq_take]
  · have prefix_take : place.take length = place.dropLast.take length := by
      rw [List.dropLast_eq_take, List.take_take, Nat.min_eq_left (by omega)]
    by_cases root : place.dropLast = []
    · rw [prefix_take, root]
      simpa using isDirectoryAt_nil disk
    · have found : disk.entry? place.dropLast = some .directory := by simpa [isDirectoryAt] using parent
      have member := mem_of_entry? found root
      rw [prefix_take]
      exact sound.rooted _ member length (by simp; omega)

theorem Sound.put (sound : disk.Sound) (accepts : disk.Accepts place)
    (file : disk.isDirectoryAt place = false) {entry : DiskEntry} (other_than : entry ≠ .directory) :
    (disk.put place entry).Sound where
  placed found member := by
    rcases List.mem_cons.mp member with same | kept
    · exact same ▸ accepts.below
    · exact sound.placed found (List.mem_filter.mp kept).1
  named found member := by
    rcases List.mem_cons.mp member with same | kept
    · exact same ▸ accepts.named
    · exact sound.named found (List.mem_filter.mp kept).1
  rooted found member length shorter := by
    rw [isDirectoryAt_put accepts.below file other_than]
    rcases List.mem_cons.mp member with same | kept
    · subst same
      exact sound.isDirectoryAt_take accepts shorter
    · exact sound.rooted found (List.mem_filter.mp kept).1 length shorter
  distinct := by
    refine List.nodup_cons.mpr ⟨?_, sound.distinct.sublist (List.filter_sublist.map Prod.fst)⟩
    intro again
    obtain ⟨found, kept, same⟩ := List.mem_map.mp again
    exact absurd same (by simpa using (List.mem_filter.mp kept).2)

/-- Two disks with the same directories, in which paths start at the same place. -/
structure SameDirectories (before after : Disk) : Prop where
  current : after.current = before.current
  directories : ∀ place, after.isDirectoryAt place = before.isDirectoryAt place

theorem SameDirectories.trans {first second third : Disk} (left : SameDirectories first second)
    (right : SameDirectories second third) : SameDirectories first third :=
  ⟨right.current.trans left.current, fun place => (right.directories place).trans (left.directories place)⟩

private theorem SameDirectories.follow_cases {before after : Disk} (same : SameDirectories before after)
    {start next : Place} {part : String} (steps : after.follow start part = some next) :
    before.follow start part = some next ∨
      (before.follow start part = none ∧ before.entry? next = none) := by
  unfold follow at steps ⊢
  rw [same.directories] at steps
  split at steps
  · simp at steps
  · next directory =>
    rw [if_neg directory]
    split at steps
    · next idle => exact .inl (by rw [if_pos idle, steps])
    · next moves =>
      rw [if_neg moves]
      split at steps
      · next up => exact .inl (by rw [if_pos up, steps])
      · next down =>
        rw [if_neg down]
        split at steps
        · obtain rfl : start ++ [part] = next := by simpa using steps
          cases found : before.entry? (start ++ [part]) with
          | some entry => exact .inl rfl
          | none => exact .inr ⟨rfl, rfl⟩
        · simp at steps

private theorem SameDirectories.entry?_of_follow {before after : Disk} (same : SameDirectories before after)
    {start : Place} {parts : List String} (leads : parts.foldlM after.follow start = some place) :
    (parts.foldlM before.follow start).bind before.entry? = before.entry? place := by
  induction parts generalizing start with
  | nil =>
    obtain rfl : start = place := by simpa using leads
    simp
  | cons part rest ih =>
    rw [List.foldlM_cons] at leads ⊢
    obtain ⟨next, steps, later⟩ := Option.bind_eq_some_iff.mp leads
    rcases same.follow_cases steps with agrees | ⟨stops, nothing⟩
    · rw [agrees]
      exact ih later
    · -- nothing follows a part that leads to something on one of the disks only
      have file : after.isDirectoryAt next = false := by
        rw [same.directories]
        simp [isDirectoryAt, nothing]
      cases rest with
      | nil =>
        obtain rfl : next = place := by simpa using later
        simp [stops, nothing]
      | cons following others => simp [follow, file] at later

/-- Among the same directories a path leads to the same place, if there is anything. -/
theorem SameDirectories.entryOf? {before after : Disk} (same : SameDirectories before after)
    {path : FilePath} (leads : after.resolve? path = some place) :
    before.entryOf? path = before.entry? place := by
  have starts : after.startOf path = before.startOf path := by simp [startOf, same.current]
  rw [resolve?_eq] at leads
  rw [Disk.entryOf?, resolve?_eq]
  split at leads
  · next usable =>
    rw [if_pos usable]
    rw [starts] at leads
    exact same.entry?_of_follow leads
  · simp at leads

theorem SameDirectories.read?_eq {before after : Disk} (same : SameDirectories before after)
    {path : FilePath} (leads : after.resolve? path = some place)
    (kept : before.entry? place = after.entry? place) : before.read? path = after.read? path := by
  have there : after.entryOf? path = after.entry? place := by simp [Disk.entryOf?, leads]
  simp only [read?, same.entryOf? leads, kept, there]

end Disk

/-- A step on one regular file. -/
inductive FileStep where
  | create (place : Place) (file : DiskEntry)
  | rewrite (place : Place) (file : DiskEntry)
  | remove (place : Place)
  | rename (source target : Place)
deriving DecidableEq, Repr

namespace FileStep

/-- A step makes sense on a disk. A file may be renamed to the place of another one. -/
def Possible (disk : Disk) : FileStep → Prop
  | create place file => file ≠ .directory ∧ disk.Accepts place ∧ disk.entry? place = none
  | rewrite place file => file ≠ .directory ∧ disk.HasFile place
  | remove place => disk.HasFile place
  | rename source target =>
    disk.HasFile source ∧ disk.Accepts target ∧ disk.isDirectoryAt target = false

def apply (disk : Disk) : FileStep → Disk
  | create place file | rewrite place file => disk.put place file
  | remove place => disk.remove place
  | rename source target =>
    match disk.entry? source with
    | some file => (disk.remove source).put target file
    | none => disk

/-- The place of the file that a step writes over. -/
def overwritten? (disk : Disk) : FileStep → Option Place
  | create _ _ | remove _ => none
  | rewrite place _ => some place
  | rename _ target => if (disk.entry? target).isSome then some target else none

variable {disk : Disk} {step : FileStep}

/-- What a step keeps: the disk stays sound, the directories stay, and whatever lies at a place lay
there before, unless the step has put it where there was nothing or written over what there was. -/
structure Kept (disk : Disk) (step : FileStep) : Prop where
  sound : (step.apply disk).Sound
  same : disk.SameDirectories (step.apply disk)
  entries : ∀ place entry, Disk.entry? (step.apply disk) place = some entry →
    disk.entry? place = some entry ∨ disk.entry? place = none ∨ step.overwritten? disk = some place

private theorem kept_put {place : Place} {file : DiskEntry} (sound : disk.Sound)
    (accepts : disk.Accepts place) (no_directory : disk.isDirectoryAt place = false)
    (regular : file ≠ .directory) :
    (disk.put place file).Sound ∧ disk.SameDirectories (disk.put place file) ∧
      ∀ other entry, Disk.entry? (disk.put place file) other = some entry →
        disk.entry? other = some entry ∨ other = place := by
  refine ⟨sound.put accepts no_directory regular,
    ⟨rfl, Disk.isDirectoryAt_put accepts.below no_directory regular⟩, fun other entry found => ?_⟩
  rw [Disk.entry?_put accepts.below] at found
  split at found
  · next same => exact .inr same
  · exact .inl found

private theorem kept_erase {place : Place} (sound : disk.Sound) (file : disk.HasFile place) :
    (disk.erase place).Sound ∧ disk.SameDirectories (disk.erase place) ∧
      ∀ other entry, Disk.entry? (disk.erase place) other = some entry → disk.entry? other = some entry := by
  refine ⟨sound.erase file.below file.isDirectoryAt,
    ⟨rfl, Disk.isDirectoryAt_erase file.below file.isDirectoryAt⟩, fun other entry found => ?_⟩
  rw [Disk.entry?_erase file.below] at found
  split at found
  · simp at found
  · exact found

theorem kept_of_possible (sound : disk.Sound) (possible : step.Possible disk) : Kept disk step := by
  cases step with
  | create place file =>
    obtain ⟨regular, accepts, nothing⟩ := possible
    have no_directory : disk.isDirectoryAt place = false := by simp [Disk.isDirectoryAt, nothing]
    obtain ⟨sound_after, same, entries⟩ := kept_put sound accepts no_directory regular
    refine ⟨sound_after, same, fun other entry found => (entries other entry found).imp_right ?_⟩
    exact fun here => .inl (here ▸ nothing)
  | rewrite place file =>
    obtain ⟨regular, lies⟩ := possible
    obtain ⟨sound_after, same, entries⟩ := kept_put sound (lies.accepts sound) lies.isDirectoryAt regular
    refine ⟨sound_after, same, fun other entry found => (entries other entry found).imp_right ?_⟩
    exact fun here => .inr (here ▸ rfl)
  | remove place =>
    have erased : (remove place).apply disk = disk.erase place :=
      Disk.remove_eq_erase sound possible.isDirectoryAt
    obtain ⟨sound_after, same, entries⟩ := kept_erase sound possible
    refine ⟨erased ▸ sound_after, erased ▸ same, fun other entry found => .inl ?_⟩
    rw [erased] at found
    exact entries other entry found
  | rename source target =>
    obtain ⟨moved, accepts, no_directory⟩ := possible
    obtain ⟨sound_between, same_between, entries_between⟩ := kept_erase sound moved
    have no_directory_between : (disk.erase source).isDirectoryAt target = false := by
      rw [same_between.directories, no_directory]
    have accepts_between : (disk.erase source).Accepts target :=
      ⟨accepts.below, accepts.named, by rw [same_between.directories, accepts.parent]⟩
    obtain ⟨file, lies, regular⟩ := moved
    have erased : (rename source target).apply disk = (disk.erase source).put target file := by
      have no_source : disk.isDirectoryAt source = false := by simp [Disk.isDirectoryAt, lies, regular]
      simp only [apply, lies, Disk.remove_eq_erase sound no_source]
    obtain ⟨sound_after, same_after, entries⟩ :=
      kept_put sound_between accepts_between no_directory_between regular
    refine ⟨erased ▸ sound_after, erased ▸ same_between.trans same_after, fun other entry found => ?_⟩
    rw [erased] at found
    rcases entries other entry found with kept | rfl
    · exact .inl (entries_between other entry kept)
    · refine .inr ?_
      cases there : disk.entry? other <;> simp [overwritten?, there]

end FileStep

end RouteExplorer
