import RouteExplorer.Proofs.Index.Listing
import RouteExplorer.Proofs.Text.ByteOrder

namespace RouteExplorer

open Glob (PatternSet)

variable {disk : Disk} {patterns : PatternSet} {roots : List FilePath}

/-- A root, and the names of the files below it in the order in which a walker yields them. -/
structure Walk where
  root : FilePath
  yielded : List Place

/-- The names of the files that a walk from a root comes to. A root that is no directory has none. -/
def visitedBelow (disk : Disk) (patterns : PatternSet) (root : FilePath) : List Place :=
  match disk.resolve? root with
  | none => []
  | some place => if disk.isDirectoryAt place then (disk.filesBelow place).filter (isVisited patterns) else []

def selectedOf (patterns : PatternSet) (yielded : List Place) : List String :=
  ((yielded.map relativePath).filter patterns.selects).mergeSort fun left right => left ≤ right

def listing (patterns : PatternSet) (walks : List Walk) : List FilePath :=
  distinctPaths (walks.flatMap fun walk =>
    (selectedOf patterns walk.yielded).map fun relative => walk.root.join ⟨relative⟩)

theorem selectedBelow_eq (root : FilePath) :
    selectedBelow disk patterns root = selectedOf patterns (visitedBelow disk patterns root) := by
  unfold selectedBelow visitedBelow
  cases disk.resolve? root with
  | none => simp [selectedOf]
  | some place =>
    dsimp only
    split
    · rfl
    · simp [selectedOf]

theorem pairwise_selectedOf (yielded : List Place) :
    (selectedOf patterns yielded).Pairwise (· ≤ ·) := by
  have sorted : (selectedOf patterns yielded).Pairwise fun left right => decide (left ≤ right) = true :=
    List.pairwise_mergeSort (fun _ _ _ => by simpa using le_trans)
      (fun left right => by simpa using le_total left right) _
  simpa using sorted

theorem selectedOf_eq {yielded : List Place} {texts : List String} (sorted : texts.Pairwise (· ≤ ·))
    (perm : texts.Perm ((yielded.map relativePath).filter patterns.selects)) : selectedOf patterns yielded = texts :=
  ((List.mergeSort_perm _ _).trans perm.symm).eq_of_pairwise (fun _ _ _ _ => le_antisymm)
    (pairwise_selectedOf yielded) sorted

theorem selectedOf_of_perm {yielded other : List Place} (perm : yielded.Perm other) :
    selectedOf patterns yielded = selectedOf patterns other :=
  selectedOf_eq (pairwise_selectedOf other) ((List.mergeSort_perm _ _).trans ((perm.symm.map _).filter _))

theorem listing_of_perm {walks : List Walk}
    (walked : ∀ walk ∈ walks, walk.yielded.Perm (visitedBelow disk patterns walk.root)) :
    listing patterns walks = scanRoots disk patterns (walks.map Walk.root) := by
  unfold listing scanRoots
  rw [List.flatMap_map]
  congr 1
  refine List.flatMap_congr fun walk member => ?_
  rw [scanRoot, selectedBelow_eq, selectedOf_of_perm (walked walk member)]

/-- Below one root a path stands before another by the bytes of the relative paths. -/
def StandsBefore (root left right : FilePath) : Prop :=
  ∃ first second, root.below? left = some first ∧ root.below? right = some second ∧
    first.toUTF8.toList < second.toUTF8.toList

theorem StandsBefore.not_same {root left right : FilePath} (before : StandsBefore root left right) :
    left.same right = false := by
  obtain ⟨first, second, first_below, second_below, less⟩ := before
  rw [Bool.eq_false_iff, ne_eq, FilePath.same_iff]
  intro same
  have alike : root.below? left = root.below? right := by
    simp [FilePath.below?, FilePath.componentsBelow?, same]
  rw [first_below, second_below] at alike
  obtain rfl := Option.some.inj alike
  exact List.lt_irrefl _ less

theorem Disk.Sound.nodup_filesBelow (sound : disk.Sound) (place : Place) : (disk.filesBelow place).Nodup := by
  refine List.pairwise_filterMap.mpr ((List.pairwise_map.mp sound.distinct).imp ?_)
  rintro ⟨left, _⟩ ⟨right, _⟩ apart names kept other kept_too same
  simp only [Option.ite_none_right_eq_some, Option.some.injEq] at kept kept_too
  obtain ⟨⟨_, left_below⟩, rfl⟩ := kept
  obtain ⟨⟨_, right_below⟩, rfl⟩ := kept_too
  obtain ⟨rest, rfl⟩ := List.isPrefixOf_iff_prefix.mp left_below
  obtain ⟨others, rfl⟩ := List.isPrefixOf_iff_prefix.mp right_below
  simp only [List.drop_left] at same
  exact apart (by rw [same])

theorem Disk.Sound.names_of_visitedBelow (sound : disk.Sound) {root : FilePath} {names : Place}
    (visited : names ∈ visitedBelow disk patterns root) :
    root.text ≠ "" ∧ names ≠ [] ∧ ∀ name ∈ names, EntryName name := by
  unfold visitedBelow at visited
  split at visited
  · cases visited
  · next place leads =>
    split at visited
    · next directory =>
      have found := (List.mem_filter.mp visited).1
      have usable := Disk.text_ne_of_isUsable (Disk.isUsable_of_resolve? leads)
      exact ⟨usable, sound.names_of_filesBelow directory found⟩
    · cases visited

theorem Disk.Sound.nodup_visitedBelow (sound : disk.Sound) (root : FilePath) :
    (visitedBelow disk patterns root).Nodup := by
  unfold visitedBelow
  split
  · exact .nil
  · split
    · exact (sound.nodup_filesBelow _).filter _
    · exact .nil

theorem relativePath_injOn {names others : Place} (filled : names ≠ []) (others_filled : others ≠ [])
    (named : ∀ name ∈ names, EntryName name) (others_named : ∀ name ∈ others, EntryName name)
    (same : relativePath names = relativePath others) : names = others := by
  rw [← FilePath.parts_relativePath names filled named, same,
    FilePath.parts_relativePath others others_filled others_named]

theorem Disk.Sound.selectedBelow_strict (sound : disk.Sound) (root : FilePath) :
    (selectedBelow disk patterns root).Pairwise (· < ·) := by
  rw [selectedBelow_eq]
  have distinct : (selectedOf patterns (visitedBelow disk patterns root)).Nodup := by
    refine (List.mergeSort_perm _ _).nodup_iff.mpr (List.Pairwise.filter _ ?_)
    refine List.pairwise_map.mpr ((sound.nodup_visitedBelow root).imp_of_mem fun first second apart same => ?_)
    obtain ⟨_, filled, named⟩ := sound.names_of_visitedBelow first
    obtain ⟨_, others_filled, others_named⟩ := sound.names_of_visitedBelow second
    exact apart (relativePath_injOn filled others_filled named others_named same)
  exact (List.Pairwise.and (pairwise_selectedOf _) distinct).imp fun both => lt_of_le_of_ne both.1 both.2

theorem below?_join_relativePath (root : FilePath) {names : Place} (usable : root.text ≠ "") (filled : names ≠ [])
    (named : ∀ name ∈ names, EntryName name) :
    root.below? (root.join ⟨relativePath names⟩) = some (relativePath names) := by
  have shape := FilePath.components_join_relativePath root names usable filled named
  simp [FilePath.below?, FilePath.componentsBelow?, shape, FilePath.relativeText_names names filled]

theorem mem_selectedBelow {root : FilePath} {relative : String} :
    relative ∈ selectedBelow disk patterns root ↔
      ∃ names ∈ visitedBelow disk patterns root, patterns.selects (relativePath names) = true ∧
        relative = relativePath names := by
  rw [selectedBelow_eq, selectedOf, List.mem_mergeSort, List.mem_filter, List.mem_map]
  constructor
  · rintro ⟨⟨names, visited, rfl⟩, chosen⟩
    exact ⟨names, visited, chosen, rfl⟩
  · rintro ⟨names, visited, chosen, rfl⟩
    exact ⟨⟨names, visited, rfl⟩, chosen⟩

theorem Disk.Sound.scanRoot_strict (sound : disk.Sound) (root : FilePath) :
    (scanRoot disk patterns root).Pairwise (StandsBefore root) := by
  refine List.pairwise_map.mpr ((sound.selectedBelow_strict root).imp_of_mem fun first second less => ?_)
  obtain ⟨names, visited, _, rfl⟩ := mem_selectedBelow.mp first
  obtain ⟨others, visited_too, _, rfl⟩ := mem_selectedBelow.mp second
  obtain ⟨usable, filled, named⟩ := sound.names_of_visitedBelow visited
  obtain ⟨_, others_filled, others_named⟩ := sound.names_of_visitedBelow visited_too
  exact ⟨_, _, below?_join_relativePath root usable filled named,
    below?_join_relativePath root usable others_filled others_named, Text.toUTF8_lt_iff.mpr less⟩

def reaches (disk : Disk) (patterns : PatternSet) (root path : FilePath) : Bool :=
  (visitedBelow disk patterns root).any fun names =>
    patterns.selects (relativePath names) && (root.join ⟨relativePath names⟩).same path

theorem reaches_eq (root path : FilePath) :
    reaches disk patterns root path = (scanRoot disk patterns root).any (·.same path) := by
  rw [Bool.eq_iff_iff, reaches, List.any_eq_true, List.any_eq_true]
  constructor
  · rintro ⟨names, visited, holds⟩
    obtain ⟨chosen, same⟩ := Bool.and_eq_true_iff.mp holds
    exact ⟨_, List.mem_map_of_mem (mem_selectedBelow.mpr ⟨names, visited, chosen, rfl⟩), same⟩
  · rintro ⟨listed, member, same⟩
    obtain ⟨relative, selected, rfl⟩ := List.mem_map.mp member
    obtain ⟨names, visited, chosen, rfl⟩ := mem_selectedBelow.mp selected
    exact ⟨names, visited, Bool.and_eq_true_iff.mpr ⟨chosen, same⟩⟩

theorem reaches_of_mem {root path : FilePath} (member : path ∈ scanRoot disk patterns root) :
    reaches disk patterns root path = true := by
  rw [reaches_eq]
  exact List.any_eq_true.mpr ⟨path, member, FilePath.same_refl path⟩

/-- The number of the first root that reaches a path. -/
def rootNumber (disk : Disk) (patterns : PatternSet) (roots : List FilePath) (path : FilePath) : Nat :=
  roots.findIdx fun root => reaches disk patterns root path

/-- A path comes before another by the numbers of their roots, and below one root by their relative paths. -/
def Precedes (disk : Disk) (patterns : PatternSet) (roots : List FilePath) (left right : FilePath) : Prop :=
  rootNumber disk patterns roots left < rootNumber disk patterns roots right ∨
    rootNumber disk patterns roots left = rootNumber disk patterns roots right ∧
      ∃ root, roots[rootNumber disk patterns roots left]? = some root ∧ StandsBefore root left right

theorem rootNumber_cons_of_reaches {root path : FilePath} (reached : reaches disk patterns root path = true) :
    rootNumber disk patterns (root :: roots) path = 0 := by
  simp [rootNumber, List.findIdx_cons, reached]

theorem rootNumber_cons {root path : FilePath} (missed : reaches disk patterns root path = false) :
    rootNumber disk patterns (root :: roots) path = rootNumber disk patterns roots path + 1 := by
  simp [rootNumber, List.findIdx_cons, missed]

/-- One more root in front does not change the order of what it does not reach. -/
theorem Precedes.cons {root left right : FilePath} (precedes : Precedes disk patterns roots left right)
    (left_missed : reaches disk patterns root left = false)
    (right_missed : reaches disk patterns root right = false) :
    Precedes disk patterns (root :: roots) left right := by
  simpa [Precedes, rootNumber_cons left_missed, rootNumber_cons right_missed] using precedes

theorem scanRoots_cons (sound : disk.Sound) (root : FilePath) :
    scanRoots disk patterns (root :: roots) = scanRoot disk patterns root ++
      (scanRoots disk patterns roots).filter fun path => !reaches disk patterns root path := by
  have distinct : (scanRoot disk patterns root).Pairwise fun left right => left.same right = false :=
    (sound.scanRoot_strict root).imp fun before => before.not_same
  simp only [scanRoots, List.flatMap_cons, distinctPaths_append, distinctPaths_eq_self distinct, reaches_eq]

theorem Disk.Sound.scanRoots_strict (sound : disk.Sound) (roots : List FilePath) :
    (scanRoots disk patterns roots).Pairwise (Precedes disk patterns roots) := by
  -- a root in front takes what it reaches away from the others, and leaves the order of the rest
  induction roots with
  | nil => exact .nil
  | cons root rest ih =>
    have missed {path : FilePath} (member : path ∈ (scanRoots disk patterns rest).filter fun path =>
        !reaches disk patterns root path) : reaches disk patterns root path = false := by
      simpa using (List.mem_filter.mp member).2
    rw [scanRoots_cons sound]
    refine List.pairwise_append.mpr ⟨?_, ?_, ?_⟩
    · refine (sound.scanRoot_strict root).imp_of_mem fun first second before => .inr ?_
      rw [rootNumber_cons_of_reaches (reaches_of_mem first), rootNumber_cons_of_reaches (reaches_of_mem second)]
      exact ⟨rfl, root, rfl, before⟩
    · exact (ih.filter _).imp_of_mem fun first second precedes =>
        precedes.cons (missed first) (missed second)
    · intro left first right second
      refine .inl ?_
      rw [rootNumber_cons_of_reaches (reaches_of_mem first), rootNumber_cons (missed second)]
      exact Nat.succ_pos _

/-- A listing holds each path that some root reaches once, and all of them in order. -/
structure Canonical (disk : Disk) (patterns : PatternSet) (roots listed : List FilePath) : Prop where
  once : listed.Pairwise fun left right => left.same right = false
  eligible : ∀ path ∈ listed, isEligible roots patterns path = true
  files : ∀ path ∈ listed, disk.isFile path = true
  reached (path : FilePath) : (∃ found ∈ listed, found.same path = true) ↔
    ∃ root ∈ roots, reaches disk patterns root path = true
  ordered : listed.Pairwise (Precedes disk patterns roots)

theorem Disk.Sound.isFile_listed (sound : disk.Sound) {path : FilePath}
    (member : path ∈ scanRoots disk patterns roots) : disk.isFile path = true := by
  obtain ⟨place, entry, leads, lies, file⟩ := sound.resolve?_listed member
  have found : disk.entryOf? path = some entry := by
    simp [Disk.entryOf?, leads, sound.entry?_of_mem lies]
  cases entry with
  | directory => exact absurd rfl file
  | _ => simp [Disk.isFile, found]

theorem listed_iff_reached (path : FilePath) :
    (∃ found ∈ scanRoots disk patterns roots, found.same path = true) ↔
      ∃ root ∈ roots, reaches disk patterns root path = true := by
  simp only [reaches_eq, List.any_eq_true]
  constructor
  · rintro ⟨found, member, same⟩
    obtain ⟨root, present, listed⟩ := mem_scanRoots member
    exact ⟨root, present, found, listed, same⟩
  · rintro ⟨root, present, found, listed, same⟩
    obtain ⟨kept, member, spelled⟩ := exists_same_of_mem (List.mem_flatMap.mpr ⟨root, present, listed⟩)
    exact ⟨kept, member, FilePath.same_trans spelled same⟩

theorem Disk.Sound.canonical_scanRoots (sound : disk.Sound) (patterns : PatternSet) (roots : List FilePath) :
    Canonical disk patterns roots (scanRoots disk patterns roots) where
  once := pairwise_distinctPaths _
  eligible _ member := isEligible_of_spelling? (spelling?_of_mem_scanRoots sound member)
  files _ member := sound.isFile_listed member
  reached := listed_iff_reached
  ordered := sound.scanRoots_strict roots

/-- Whatever the walkers yield first, the listing is the same, and it is in order. -/
theorem listing_canonical (sound : disk.Sound) {walks : List Walk}
    (walked : ∀ walk ∈ walks, walk.yielded.Perm (visitedBelow disk patterns walk.root)) :
    listing patterns walks = scanRoots disk patterns (walks.map Walk.root) ∧
      Canonical disk patterns (walks.map Walk.root) (listing patterns walks) := by
  have same := listing_of_perm walked
  exact ⟨same, same ▸ sound.canonical_scanRoots patterns _⟩

def nestedSources : Disk where
  current := []
  entries := [(["w"], .directory), (["w", "z.ts"], .text ""), (["w", "é.ts"], .binary),
    (["w", "a"], .directory), (["w", "a", "b.ts"], .text ""), (["w", "a.ts"], .text "")]

def anyScript : PatternSet := ⟨[[.anyFront, .anyBytes, .literal '.', .literal 't', .literal 's']], [], []⟩

def overlappingWalks : List Walk :=
  [⟨⟨"/w/a"⟩, [["b.ts"]]⟩, ⟨⟨"/missing"⟩, []⟩,
    ⟨⟨"/w"⟩, [["a.ts"], ["a", "b.ts"], ["é.ts"], ["z.ts"]]⟩, ⟨⟨"/w/a"⟩, [["b.ts"]]⟩]

theorem nestedSources_listed :
    nestedSources.Sound ∧
      (∀ walk ∈ overlappingWalks, walk.yielded.Perm (visitedBelow nestedSources anyScript walk.root)) ∧
      listing anyScript overlappingWalks = [⟨"/w/a/b.ts"⟩, ⟨"/w/a.ts"⟩, ⟨"/w/z.ts"⟩, ⟨"/w/é.ts"⟩] ∧
      listing anyScript overlappingWalks =
        scanRoots nestedSources anyScript (overlappingWalks.map Walk.root) ∧
      Canonical nestedSources anyScript (overlappingWalks.map Walk.root)
        (listing anyScript overlappingWalks) := by
  have sound : nestedSources.Sound := by decide
  have walked : ∀ walk ∈ overlappingWalks,
      walk.yielded.Perm (visitedBelow nestedSources anyScript walk.root) := by decide +kernel
  have inner : selectedOf anyScript [["b.ts"]] = ["b.ts"] := selectedOf_eq (by simp) (by decide +kernel)
  have outer : selectedOf anyScript [["a.ts"], ["a", "b.ts"], ["é.ts"], ["z.ts"]] =
      ["a.ts", "a/b.ts", "z.ts", "é.ts"] := selectedOf_eq (by decide +kernel) (by decide +kernel)
  have listed : listing anyScript overlappingWalks =
      [⟨"/w/a/b.ts"⟩, ⟨"/w/a.ts"⟩, ⟨"/w/z.ts"⟩, ⟨"/w/é.ts"⟩] := by
    simp only [listing, overlappingWalks, List.flatMap_cons, List.flatMap_nil, inner, outer]
    decide +kernel
  exact ⟨sound, walked, listed, listing_canonical sound walked⟩

end RouteExplorer
