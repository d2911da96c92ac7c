import RouteExplorer.Proofs.Workspace.FileStep

namespace RouteExplorer

namespace Disk

variable {disk : Disk}

private theorem target_of_walk {start place : Place} {components : List PathComponent}
    (rootless : .root ∉ components) (leads : disk.walk start components = some place) :
    place = components.foldl (fun place component =>
      match component with
      | .root => []
      | .current => place
      | .parent => place.dropLast
      | .name text => place ++ [text]) start := by
  induction components generalizing start with
  | nil => simpa [walk, eq_comm] using leads
  | cons component rest ih =>
    have later : .root ∉ rest := fun member => rootless (List.mem_cons_of_mem _ member)
    obtain ⟨middle, enters, goes_on⟩ := Option.bind_eq_some_iff.mp leads
    rw [ih later goes_on, List.foldl_cons]
    congr 1
    cases component with
    | root => simp at rootless
    | current => simpa [enter, eq_comm] using enters
    | parent =>
      by_cases directory : disk.isDirectoryAt start = true
      · simpa [enter, directory, eq_comm] using enters
      · simp [enter, directory] at enters
    | name text =>
      by_cases there : disk.isDirectoryAt start = true ∧ (disk.entry? (start ++ [text])).isSome = true
      · simpa [enter, there, eq_comm] using enters
      · simp [enter, there] at enters

theorem resolve?_eq_target {path : FilePath} {place : Place} (leads : disk.resolve? path = some place) :
    place = disk.target path := by
  have walks := walk_of_resolve? leads
  have rootless : .root ∉ PathComponent.ofParts path.parts := by
    simp only [PathComponent.ofParts, List.mem_filterMap]
    rintro ⟨part, _, gives⟩
    split at gives
    · simp at gives
    · split at gives <;> simp at gives
  rw [FilePath.components_eq, walk_append] at walks
  unfold target
  rw [FilePath.components_eq, List.foldl_append]
  unfold FilePath.lead at walks ⊢
  by_cases absolute : path.isAbsolute = true
  · have starts : disk.startOf path = [] := by simp [startOf, absolute]
    rw [if_pos absolute, starts] at walks ⊢
    exact target_of_walk rootless walks
  · rw [if_neg absolute] at walks ⊢
    by_cases dotted : path.parts.head? = some "."
    · rw [if_pos dotted] at walks ⊢
      exact target_of_walk rootless walks
    · rw [if_neg dotted] at walks ⊢
      exact target_of_walk rootless walks

end Disk

/-- A directory becomes another one, with everything below it. -/
structure DirectoryMove where
  source : Place
  target : Place
deriving DecidableEq, Repr

namespace DirectoryMove

def relocate (move : DirectoryMove) (place : Place) : Place :=
  if move.source.isPrefixOf place then move.target ++ place.drop move.source.length else place

/-- The disk after a move. An empty directory at the new place is replaced. -/
def apply (move : DirectoryMove) (disk : Disk) : Disk :=
  { disk with entries := (disk.entries.filter fun kept => kept.1 != move.target).map fun kept =>
      (move.relocate kept.1, kept.2) }

/-- A move makes sense on a disk: a directory other than the root goes to a place that can hold it and that
holds an empty directory at most, but not to a place below itself. -/
structure Possible (move : DirectoryMove) (disk : Disk) : Prop where
  below : move.source ≠ []
  directory : disk.isDirectoryAt move.source = true
  accepts : disk.Accepts move.target
  outside : ¬move.source <+: move.target
  empty : ∀ found ∈ disk.entries, move.target <+: found.1 → found = (move.target, .directory)

variable {move : DirectoryMove} {disk : Disk}

theorem relocate_below (move : DirectoryMove) (rest : Place) :
    move.relocate (move.source ++ rest) = move.target ++ rest := by
  simp [relocate]

theorem relocate_elsewhere {place : Place} (elsewhere : ¬move.source <+: place) :
    move.relocate place = place := by
  simp [relocate, elsewhere]

theorem Possible.apart (possible : move.Possible disk) : ¬move.target <+: move.source := by
  intro above
  have found : disk.entry? move.source = some .directory := by
    simpa [Disk.isDirectoryAt] using possible.directory
  have itself := possible.empty _ (Disk.mem_of_entry? found possible.below) above
  have same : move.source = move.target := congrArg Prod.fst itself
  exact possible.outside (same ▸ List.prefix_refl _)

/-- After a move an entry was moved, or lies elsewhere and is as it was. -/
theorem Possible.mem_apply (possible : move.Possible disk) {place : Place} {entry : DiskEntry} :
    (place, entry) ∈ (move.apply disk).entries ↔
      (∃ rest, place = move.target ++ rest ∧ (move.source ++ rest, entry) ∈ disk.entries) ∨
        (¬move.source <+: place ∧ ¬move.target <+: place ∧ (place, entry) ∈ disk.entries) := by
  simp only [apply, List.mem_map, List.mem_filter, bne_iff_ne, Prod.exists, Prod.mk.injEq]
  constructor
  · rintro ⟨before, kept, ⟨member, other⟩, rfl, rfl⟩
    by_cases moved : move.source <+: before
    · obtain ⟨rest, rfl⟩ := moved
      exact .inl ⟨rest, move.relocate_below rest, member⟩
    · rw [relocate_elsewhere moved]
      refine .inr ⟨moved, fun within => other ?_, member⟩
      exact congrArg Prod.fst (possible.empty _ member within)
  · rintro (⟨rest, rfl, member⟩ | ⟨elsewhere, outside, member⟩)
    · refine ⟨_, _, ⟨member, ?_⟩, move.relocate_below rest, rfl⟩
      intro same
      exact possible.outside ⟨rest, same⟩
    · refine ⟨_, _, ⟨member, ?_⟩, relocate_elsewhere elsewhere, rfl⟩
      rintro rfl
      exact outside (List.prefix_refl _)

private theorem Possible.relocate_inj (possible : move.Possible disk) {left right : Place × DiskEntry}
    (left_member : left ∈ disk.entries) (left_other : left.1 ≠ move.target)
    (right_member : right ∈ disk.entries) (right_other : right.1 ≠ move.target)
    (same : move.relocate left.1 = move.relocate right.1) : left.1 = right.1 := by
  have outside {found : Place × DiskEntry} (member : found ∈ disk.entries) (other : found.1 ≠ move.target)
      (rest : Place) : found.1 ≠ move.target ++ rest := by
    intro within
    exact other (congrArg Prod.fst (possible.empty found member ⟨rest, within.symm⟩))
  by_cases left_moved : move.source <+: left.1
  · obtain ⟨rest, left_eq⟩ := left_moved
    rw [← left_eq, relocate_below] at same
    by_cases right_moved : move.source <+: right.1
    · obtain ⟨others, right_eq⟩ := right_moved
      rw [← right_eq, relocate_below] at same
      rw [← left_eq, ← right_eq, List.append_cancel_left same]
    · rw [relocate_elsewhere right_moved] at same
      exact absurd same.symm (outside right_member right_other rest)
  · rw [relocate_elsewhere left_moved] at same
    by_cases right_moved : move.source <+: right.1
    · obtain ⟨others, right_eq⟩ := right_moved
      rw [← right_eq, relocate_below] at same
      exact absurd same (outside left_member left_other others)
    · rwa [relocate_elsewhere right_moved] at same

private theorem Possible.distinct (sound : disk.Sound) (possible : move.Possible disk) :
    ((move.apply disk).entries.map Prod.fst).Nodup := by
  have apart : disk.entries.Pairwise fun left right => left.1 ≠ right.1 := List.pairwise_map.mp sound.distinct
  have kept := apart.sublist (List.filter_sublist (p := fun kept => kept.1 != move.target))
  refine List.pairwise_map.mpr (List.pairwise_map.mpr (kept.imp_of_mem ?_))
  intro left right left_kept right_kept different same
  obtain ⟨left_member, left_other⟩ := List.mem_filter.mp left_kept
  obtain ⟨right_member, right_other⟩ := List.mem_filter.mp right_kept
  exact different (possible.relocate_inj left_member (by simpa using left_other) right_member
    (by simpa using right_other) same)

private theorem Possible.placed (sound : disk.Sound) (possible : move.Possible disk) :
    ∀ found ∈ (move.apply disk).entries, found.1 ≠ [] := by
  rintro ⟨place, entry⟩ member
  rcases possible.mem_apply.mp member with ⟨rest, rfl, _⟩ | ⟨_, _, kept⟩
  · simp [possible.accepts.below]
  · exact sound.placed _ kept

private theorem Possible.entry?_apply (sound : disk.Sound) (possible : move.Possible disk) {place : Place}
    {entry : DiskEntry} (member : (place, entry) ∈ (move.apply disk).entries) :
    Disk.entry? (move.apply disk) place = some entry := by
  have below := possible.placed sound _ member
  simp [Disk.entry?, below, Disk.lookup_of_mem (possible.distinct sound) member]

private theorem Possible.isDirectoryAt_kept (sound : disk.Sound) (possible : move.Possible disk)
    {place : Place} (elsewhere : ¬move.source <+: place) (outside : ¬move.target <+: place)
    (directory : disk.isDirectoryAt place = true) : (move.apply disk).isDirectoryAt place = true := by
  by_cases root : place = []
  · subst root
    exact Disk.isDirectoryAt_nil _
  · have found : disk.entry? place = some .directory := by simpa [Disk.isDirectoryAt] using directory
    have member := possible.mem_apply.mpr (.inr ⟨elsewhere, outside, Disk.mem_of_entry? found root⟩)
    simp [Disk.isDirectoryAt, possible.entry?_apply sound member]

private theorem Possible.isDirectoryAt_moved (sound : disk.Sound) (possible : move.Possible disk)
    {rest : Place} (directory : disk.isDirectoryAt (move.source ++ rest) = true) :
    (move.apply disk).isDirectoryAt (move.target ++ rest) = true := by
  have below : move.source ++ rest ≠ [] := by simp [possible.below]
  have found : disk.entry? (move.source ++ rest) = some .directory := by
    simpa [Disk.isDirectoryAt] using directory
  have member := possible.mem_apply.mpr (.inl ⟨rest, rfl, Disk.mem_of_entry? found below⟩)
  simp [Disk.isDirectoryAt, possible.entry?_apply sound member]

/-- A move keeps a disk sound. -/
theorem Possible.sound (sound : disk.Sound) (possible : move.Possible disk) : (move.apply disk).Sound where
  placed := possible.placed sound
  named := by
    rintro ⟨place, entry⟩ member name present
    rcases possible.mem_apply.mp member with ⟨rest, rfl, moved⟩ | ⟨_, _, kept⟩
    · rcases List.mem_append.mp present with above | within
      · exact possible.accepts.named name above
      · exact sound.named _ moved name (List.mem_append_right _ within)
    · exact sound.named _ kept name present
  rooted := by
    rintro ⟨place, entry⟩ member length shorter
    rcases possible.mem_apply.mp member with ⟨rest, rfl, moved⟩ | ⟨elsewhere, outside, kept⟩
    · by_cases above : length < move.target.length
      · -- on the way to the new place nothing has changed
        have way : (move.target ++ rest).take length = move.target.take length :=
          List.take_append_of_le_length (Nat.le_of_lt above)
        rw [way]
        have begins := List.take_prefix length move.target
        refine possible.isDirectoryAt_kept sound (fun within => possible.outside (within.trans begins)) ?_
          (sound.isDirectoryAt_take possible.accepts above)
        intro within
        have longer := within.length_le
        rw [List.length_take] at longer
        omega
      · have way : (move.target ++ rest).take length =
            move.target ++ rest.take (length - move.target.length) := by
          rw [List.take_append, List.take_of_length_le (Nat.le_of_not_lt above)]
        have before : (move.source ++ rest).take (move.source.length + (length - move.target.length)) =
            move.source ++ rest.take (length - move.target.length) := by
          rw [List.take_append, List.take_of_length_le (Nat.le_add_right _ _), Nat.add_sub_cancel_left]
        rw [way]
        apply possible.isDirectoryAt_moved sound
        rw [← before]
        apply sound.rooted _ moved
        rw [List.length_append] at shorter ⊢
        omega
    · have begins := List.take_prefix length place
      exact possible.isDirectoryAt_kept sound (fun within => elsewhere (within.trans begins))
        (fun within => outside (within.trans begins)) (sound.rooted _ kept length shorter)
  distinct := possible.distinct sound

theorem target_apply (move : DirectoryMove) (disk : Disk) (path : FilePath) :
    (move.apply disk).target path = disk.target path := rfl

/-- A path that named a place below the source leads nowhere after the move. -/
theorem Possible.resolve?_below (sound : disk.Sound) (possible : move.Possible disk) {path : FilePath}
    (below : move.source <+: disk.target path) : (move.apply disk).resolve? path = none := by
  cases leads : (move.apply disk).resolve? path with
  | none => rfl
  | some place =>
    have named : place = (move.apply disk).target path := Disk.resolve?_eq_target leads
    rw [target_apply] at named
    have there := (possible.sound sound).entry?_isSome leads
    obtain ⟨entry, found⟩ := Option.isSome_iff_exists.mp there
    obtain ⟨rest, shape⟩ := below
    have proper : place ≠ [] := by simp [named, ← shape, possible.below]
    rcases possible.mem_apply.mp (Disk.mem_of_entry? found proper) with ⟨others, moved, _⟩ | ⟨elsewhere, _⟩
    · -- of two ways to one place, one is the beginning of the other
      have both : move.source ++ rest = move.target ++ others := by rw [shape, ← named, moved]
      rcases List.prefix_or_prefix_of_prefix ⟨rest, both⟩ (List.prefix_append move.target others) with
        inside | above
      · exact absurd inside possible.outside
      · exact absurd above possible.apart
    · exact absurd ⟨rest, shape.trans named.symm⟩ elsewhere

/-- A path that led to a text before and leads somewhere after the move leads to that text. -/
theorem Possible.read?_eq (sound : disk.Sound) (possible : move.Possible disk) {path : FilePath}
    {text : String} (showed : disk.read? path = some text)
    (leads : (move.apply disk).pathExists path = true) : (move.apply disk).read? path = some text := by
  obtain ⟨place, leads⟩ := Option.isSome_iff_exists.mp leads
  obtain ⟨before, led, lay⟩ : ∃ place, disk.resolve? path = some place ∧
      disk.entry? place = some (.text text) := by
    unfold Disk.read? Disk.entryOf? at showed
    cases led : disk.resolve? path with
    | none => simp [led] at showed
    | some place =>
      cases lay : disk.entry? place with
      | none => simp [led, lay] at showed
      | some entry => cases entry <;> simp_all
  have arrives : place = (move.apply disk).target path := Disk.resolve?_eq_target leads
  have left : before = disk.target path := Disk.resolve?_eq_target led
  obtain rfl : place = before := arrives.trans left.symm
  have proper : place ≠ [] := by
    rintro rfl
    simp [Disk.entry?] at lay
  have member := Disk.mem_of_entry? lay proper
  have outside : ¬move.target <+: place := by
    intro within
    simpa using possible.empty _ member within
  have elsewhere : ¬move.source <+: place := by
    intro moved
    have gone := possible.resolve?_below sound (left ▸ moved)
    simp [gone] at leads
  have stays := possible.mem_apply.mpr (.inr ⟨elsewhere, outside, member⟩)
  simp [Disk.read?, Disk.entryOf?, leads, (possible.sound sound).entry?_of_mem stays]

end DirectoryMove

end RouteExplorer
