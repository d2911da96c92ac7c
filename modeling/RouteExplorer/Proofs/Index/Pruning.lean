import RouteExplorer.Proofs.Glob.Deepening
import RouteExplorer.Proofs.Index.Listing

/-!
Directories are pruned for exclude patterns that leave out all that lies below them, so a walk comes to
every file that the patterns select. The exception is an exclude pattern such as `**//**`, which
excludes nothing: the directory before its `/**` is a bare `**`, and that prunes every directory.
-/
namespace RouteExplorer

open Glob (Pattern PatternError PatternSet Deepens belowSuffix)

namespace Glob.PatternSet

/-- The directory that an exclude pattern prunes is every directory. -/
def Sweeps (text : String) : Prop :=
  ∃ directory, prunedDirectory? text = some directory ∧ Pattern.parse directory = .ok [.anyFront]

theorem mapM_ok {texts : List String} {patterns : List Pattern}
    (read : texts.mapM Pattern.parse = .ok patterns) :
    (∀ pattern ∈ patterns, ∃ text ∈ texts, Pattern.parse text = .ok pattern) ∧
      ∀ text ∈ texts, ∃ pattern ∈ patterns, Pattern.parse text = .ok pattern := by
  induction texts generalizing patterns with
  | nil =>
    obtain rfl : [] = patterns := by simpa [pure, Except.pure] using read
    simp
  | cons text rest ih =>
    rw [List.mapM_cons] at read
    obtain ⟨pattern, first, read⟩ := bind_eq_ok.mp read
    obtain ⟨later, others, read⟩ := bind_eq_ok.mp read
    obtain rfl : pattern :: later = patterns := Except.ok.inj read
    obtain ⟨found, kept⟩ := ih others
    constructor
    · intro other member
      rcases List.mem_cons.mp member with rfl | older
      · exact ⟨text, by simp, first⟩
      · obtain ⟨from_text, present, read⟩ := found other older
        exact ⟨from_text, List.mem_cons_of_mem _ present, read⟩
    · intro other member
      rcases List.mem_cons.mp member with rfl | older
      · exact ⟨pattern, by simp, first⟩
      · obtain ⟨gives, present, read⟩ := kept other older
        exact ⟨gives, List.mem_cons_of_mem _ present, read⟩

theorem prunedDirectory?_eq_some {text directory : String}
    (prunes : prunedDirectory? text = some directory) : text = directory ++ String.ofList belowSuffix := by
  unfold prunedDirectory? at prunes
  split at prunes
  · next before shape =>
    split at prunes
    · simp at prunes
    · obtain rfl := Option.some.inj prunes
      have characters := congrArg List.reverse shape
      rw [List.reverse_reverse] at characters
      apply String.toList_inj.mp
      rw [characters, String.toList_append, String.toList_ofList, String.toList_ofList]
      simp [belowSuffix]
  · simp at prunes

variable {includes excludes : List String} {patterns : PatternSet}

private theorem parse_ok (read : PatternSet.parse includes excludes = .ok patterns) :
    (excludes.filterMap prunedDirectory?).mapM Pattern.parse = .ok patterns.pruned ∧
      excludes.mapM Pattern.parse = .ok patterns.excluded := by
  obtain ⟨pruned, pruned_read, read⟩ := bind_eq_ok.mp read
  obtain ⟨included, _, read⟩ := bind_eq_ok.mp read
  obtain ⟨excluded, excluded_read, read⟩ := bind_eq_ok.mp read
  cases read
  exact ⟨pruned_read, excluded_read⟩

/-- Behind every pruned directory stands an exclude pattern that is deeper by `/**`. -/
theorem exists_excluded_of_pruned (read : PatternSet.parse includes excludes = .ok patterns)
    {pruned : Pattern} (member : pruned ∈ patterns.pruned) :
    ∃ text ∈ excludes, ∃ directory deeper, prunedDirectory? text = some directory ∧
      Pattern.parse directory = .ok pruned ∧ deeper ∈ patterns.excluded ∧ Deepens pruned deeper := by
  obtain ⟨pruned_read, excluded_read⟩ := parse_ok read
  obtain ⟨directory, listed, directory_read⟩ := (mapM_ok pruned_read).1 pruned member
  obtain ⟨text, present, prunes⟩ := List.mem_filterMap.mp listed
  obtain ⟨deeper, deeper_read, deepens⟩ := Pattern.parse_below directory_read
  rw [← prunedDirectory?_eq_some prunes] at deeper_read
  obtain ⟨excluded, kept, text_read⟩ := (mapM_ok excluded_read).2 text present
  obtain rfl : excluded = deeper := Except.ok.inj (text_read.symm.trans deeper_read)
  exact ⟨text, present, directory, excluded, prunes, directory_read, kept, deepens⟩

theorem not_selects_of_prunes (read : PatternSet.parse includes excludes = .ok patterns)
    (narrow : ¬∃ text ∈ excludes, Sweeps text) {directory : String}
    (pruned : patterns.prunes directory = true) (rest : String) :
    patterns.selects (directory ++ "/" ++ rest) = false := by
  obtain ⟨pattern, member, matched⟩ := List.any_eq_true.mp pruned
  obtain ⟨text, present, named, deeper, prunes, named_read, kept, deepens⟩ :=
    exists_excluded_of_pruned read member
  have proper : pattern = [.anyFront] → deeper = [.anyFront] := by
    rintro rfl
    exact absurd ⟨text, present, named, prunes, named_read⟩ narrow
  have excluded : patterns.excluded.any (·.isMatch (directory ++ "/" ++ rest)) = true :=
    List.any_eq_true.mpr ⟨deeper, kept, deepens.isMatch_below proper matched rest⟩
  simp [selects, excluded]

theorem prunes_of_sweeps (read : PatternSet.parse includes excludes = .ok patterns)
    (sweeps : ∃ text ∈ excludes, Sweeps text) (directory : String) : patterns.prunes directory = true := by
  obtain ⟨text, present, named, prunes, named_read⟩ := sweeps
  have listed : named ∈ excludes.filterMap prunedDirectory? := List.mem_filterMap.mpr ⟨text, present, prunes⟩
  obtain ⟨pattern, member, pattern_read⟩ := (mapM_ok (parse_ok read).1).2 named listed
  obtain rfl : [.anyFront] = pattern := Except.ok.inj (named_read.symm.trans pattern_read)
  exact List.any_eq_true.mpr ⟨_, member, Pattern.isMatch_everything directory⟩

end Glob.PatternSet

theorem mem_directoriesOnWay {names directory : Place} :
    directory ∈ directoriesOnWay names ↔
      directory ≠ [] ∧ ∃ rest, rest ≠ [] ∧ names = directory ++ rest := by
  induction names generalizing directory with
  | nil => simp [directoriesOnWay]
  | cons name others ih =>
    cases others with
    | nil =>
      simp only [directoriesOnWay, List.not_mem_nil, false_iff]
      rintro ⟨filled, rest, nonempty, shape⟩
      obtain ⟨head, tail, rfl⟩ := List.exists_cons_of_ne_nil filled
      simp_all
    | cons next later =>
      rw [directoriesOnWay, List.mem_cons, List.mem_map]
      constructor
      · rintro (rfl | ⟨inner, member, rfl⟩)
        · exact ⟨by simp, next :: later, by simp, rfl⟩
        · obtain ⟨_, rest, nonempty, shape⟩ := ih.mp member
          exact ⟨by simp, rest, nonempty, by rw [shape, List.cons_append]⟩
      · rintro ⟨filled, rest, nonempty, shape⟩
        obtain ⟨head, tail, rfl⟩ := List.exists_cons_of_ne_nil filled
        obtain ⟨rfl, deeper⟩ := List.cons.inj shape
        cases tail with
        | nil => exact .inl rfl
        | cons second others =>
          exact .inr ⟨second :: others, ih.mpr ⟨by simp, rest, nonempty, deeper⟩, rfl⟩

theorem relativePath_singleton (name : String) : relativePath [name] = name := by
  simp [relativePath, Text.join, Text.joinChars]

theorem relativePath_append {front back : Place} (filled : front ≠ []) (nonempty : back ≠ []) :
    relativePath (front ++ back) = relativePath front ++ "/" ++ relativePath back :=
  Text.join_append '/' filled nonempty

section

variable {includes excludes : List String} {patterns : PatternSet}

/-- Unless a pattern sweeps, a walk comes to every file that the patterns select. -/
theorem isVisited_of_selects (read : PatternSet.parse includes excludes = .ok patterns)
    (narrow : ¬∃ text ∈ excludes, PatternSet.Sweeps text) {names : Place}
    (chosen : patterns.selects (relativePath names) = true) : isVisited patterns names = true := by
  apply List.all_eq_true.mpr
  intro directory member
  obtain ⟨filled, rest, nonempty, rfl⟩ := mem_directoriesOnWay.mp member
  rw [Bool.not_eq_true']
  by_contra pruned
  rw [relativePath_append filled nonempty,
    PatternSet.not_selects_of_prunes read narrow (by simpa using pruned)] at chosen
  cases chosen

/-- If a pattern sweeps, a walk comes to no file below the directories in a root. -/
theorem isVisited_of_sweeps (read : PatternSet.parse includes excludes = .ok patterns)
    (sweeps : ∃ text ∈ excludes, PatternSet.Sweeps text) {names : Place} :
    isVisited patterns names = true ↔ names.length ≤ 1 := by
  match names with
  | [] => simp [isVisited, directoriesOnWay]
  | [name] => simp [isVisited, directoriesOnWay]
  | name :: next :: rest =>
    have pruned := PatternSet.prunes_of_sweeps read sweeps (relativePath [name])
    simp [isVisited, directoriesOnWay, pruned]

variable {disk : Disk} {roots : List FilePath} {path : FilePath}

/-- A scan lists a file exactly when the file has names below a root that a walk visits and the
patterns select. -/
theorem Disk.Sound.exists_listed_iff (sound : disk.Sound)
    (existing : ∀ root ∈ roots, disk.pathExists root = true) (file : disk.isFile path = true) :
    (∃ listed ∈ scanRoots disk patterns roots, listed.same path = true) ↔
      ∃ root ∈ roots, ∃ names : Place, names ≠ [] ∧
        path.components = root.components ++ names.map .name ∧
        isVisited patterns names = true ∧ patterns.selects (relativePath names) = true := by
  constructor
  · rintro ⟨listed, member, same⟩
    obtain ⟨root, present, below⟩ := mem_scanRoots member
    obtain ⟨_, names, _, leads, _, _, _, nonempty, named, visited, chosen, rfl⟩ := sound.listed_below below
    refine ⟨root, present, names, nonempty, ?_, visited, chosen⟩
    rw [← (FilePath.same_iff _ _).mp same]
    have usable := Disk.isUsable_of_resolve? leads
    exact FilePath.components_join_relativePath root names (Disk.text_ne_of_isUsable usable) nonempty named
  · rintro ⟨root, present, names, nonempty, shape, visited, chosen⟩
    obtain ⟨place, entry, leads, lies, noDirectory⟩ := Disk.exists_entry_of_isFile file
    -- the names of the root lead to a directory, from which the other names lead to the file
    have walks := Disk.walk_of_resolve? leads
    have starts : disk.startOf root = disk.startOf path := Disk.startOf_of_components shape nonempty
    rw [shape, Disk.walk_append, ← starts] at walks
    obtain ⟨middle, reached, rest⟩ := Option.bind_eq_some_iff.mp walks
    have directory := Disk.isDirectoryAt_of_walk_names nonempty rest
    obtain rfl := Disk.walk_names rest
    obtain ⟨_, exists_root⟩ := Option.isSome_iff_exists.mp (existing root present)
    have usable := Disk.isUsable_of_resolve? exists_root
    have begins := Disk.isDirectoryAt_startOf exists_root
    have resolved := (sound.resolve?_iff_walk usable begins directory).mpr reached
    have found : names ∈ disk.filesBelow middle :=
      mem_filesBelow.mpr ⟨entry, Disk.mem_of_entry? lies (by simp [nonempty]), noDirectory⟩
    have named := (sound.names_of_filesBelow directory found).2
    have listed := mem_scanRoot.mpr ⟨middle, names, resolved, directory, found, visited, chosen, rfl⟩
    obtain ⟨kept, stays, same⟩ := exists_same_of_mem (List.mem_flatMap.mpr ⟨root, present, listed⟩)
    refine ⟨kept, stays, FilePath.same_trans same ?_⟩
    rw [FilePath.same_iff, shape]
    exact FilePath.components_join_relativePath root names (Disk.text_ne_of_isUsable usable) nonempty named

theorem isEligible_iff_names (direct : ∀ root ∈ roots, ∀ rest, path.components = root.components ++ rest →
      ∃ names : Place, names ≠ [] ∧ rest = names.map .name) :
    isEligible roots patterns path = true ↔
      ∃ root ∈ roots, ∃ names : Place, names ≠ [] ∧
        path.components = root.components ++ names.map .name ∧
        patterns.selects (relativePath names) = true := by
  simp only [isEligible, List.any_eq_true]
  refine exists_congr fun root => and_congr_right fun member => ?_
  unfold FilePath.below? FilePath.componentsBelow?
  split
  · next below =>
    obtain ⟨rest, shape⟩ := List.isPrefixOf_iff_prefix.mp below
    obtain ⟨names, nonempty, rfl⟩ := direct root member rest shape.symm
    rw [← shape, List.drop_left, Option.map_some, Option.any_some,
      FilePath.relativeText_names names nonempty]
    constructor
    · exact fun chosen => ⟨names, nonempty, rfl, chosen⟩
    · rintro ⟨others, _, same, chosen⟩
      have names_eq : names = others := by simpa [List.map_inj_right] using same
      exact names_eq ▸ chosen
  · next apart =>
    constructor
    · intro chosen
      cases chosen
    · rintro ⟨names, _, shape, _⟩
      exact absurd (List.isPrefixOf_iff_prefix.mpr ⟨_, shape.symm⟩) apart

/-- Scanning and eligibility agree on a file below the roots, unless an exclude pattern sweeps and the
file is selected in no root itself. -/
theorem scan_agrees_iff (sound : disk.Sound) (read : PatternSet.parse includes excludes = .ok patterns)
    (existing : ∀ root ∈ roots, disk.pathExists root = true) (file : disk.isFile path = true)
    (direct : ∀ root ∈ roots, ∀ rest, path.components = root.components ++ rest →
      ∃ names : Place, names ≠ [] ∧ rest = names.map .name) :
    ((∃ listed ∈ scanRoots disk patterns roots, listed.same path = true) ↔
        isEligible roots patterns path = true) ↔
      ((∃ text ∈ excludes, PatternSet.Sweeps text) → isEligible roots patterns path = true →
        ∃ root ∈ roots, ∃ name, path.components = root.components ++ [.name name] ∧
          patterns.selects name = true) := by
  rw [sound.exists_listed_iff existing file, isEligible_iff_names direct]
  constructor
  · intro agrees sweeps eligible
    obtain ⟨root, member, names, nonempty, shape, visited, chosen⟩ := agrees.mpr eligible
    have short := (isVisited_of_sweeps read sweeps).mp visited
    obtain ⟨name, rfl⟩ : ∃ name, names = [name] := by
      obtain ⟨name, others, rfl⟩ := List.exists_cons_of_ne_nil nonempty
      obtain rfl : others = [] := by simpa using short
      exact ⟨name, rfl⟩
    exact ⟨root, member, name, shape, relativePath_singleton name ▸ chosen⟩
  · intro shallow
    constructor
    · rintro ⟨root, member, names, nonempty, shape, _, chosen⟩
      exact ⟨root, member, names, nonempty, shape, chosen⟩
    · intro eligible
      by_cases sweeps : ∃ text ∈ excludes, PatternSet.Sweeps text
      · obtain ⟨root, member, name, shape, chosen⟩ := shallow sweeps eligible
        have visited : isVisited patterns [name] = true :=
          (isVisited_of_sweeps read sweeps).mpr (Nat.le_refl 1)
        exact ⟨root, member, [name], by simp, shape, visited, (relativePath_singleton name).symm ▸ chosen⟩
      · obtain ⟨root, member, names, nonempty, shape, chosen⟩ := eligible
        exact ⟨root, member, names, nonempty, shape, isVisited_of_selects read sweeps chosen, chosen⟩

def sourcesAndBuild : Disk where
  current := ["w"]
  entries := [(["w"], .directory), (["w", "src"], .directory), (["w", "dist"], .directory),
    (["w", "src", "a.ts"], .text ""), (["w", "dist", "a.ts"], .text "")]

def scripts : Pattern := [.anyFront, .anyBytes, .literal '.', .literal 't', .literal 's']

def anyDist : Pattern := [.anyFront, .literal 'd', .literal 'i', .literal 's', .literal 't']

theorem scan_agrees_on_source :
    PatternSet.parse ["**/*.ts"] ["**/dist/**"] = .ok ⟨[scripts], [anyDist ++ [.anyBack]], [anyDist]⟩ ∧
      ((∃ listed ∈ scanRoots sourcesAndBuild ⟨[scripts], [anyDist ++ [.anyBack]], [anyDist]⟩ [⟨"/w"⟩],
          listed.same ⟨"/w/src/a.ts"⟩ = true) ↔
        isEligible [⟨"/w"⟩] ⟨[scripts], [anyDist ++ [.anyBack]], [anyDist]⟩ ⟨"/w/src/a.ts"⟩ = true) := by
  have read : PatternSet.parse ["**/*.ts"] ["**/dist/**"] =
      .ok ⟨[scripts], [anyDist ++ [.anyBack]], [anyDist]⟩ := rfl
  refine ⟨read, (scan_agrees_iff (by decide) read (by decide +kernel) (by decide +kernel) ?_).mpr ?_⟩
  · intro root member rest shape
    obtain rfl : root = ⟨"/w"⟩ := by simpa using member
    have path_components : (FilePath.mk "/w/src/a.ts").components =
        (FilePath.mk "/w").components ++ ["src", "a.ts"].map .name := by decide +kernel
    rw [path_components] at shape
    exact ⟨["src", "a.ts"], by simp, (List.append_cancel_left shape).symm⟩
  · rintro ⟨text, member, directory, prunes, named⟩
    obtain rfl : text = "**/dist/**" := by simpa using member
    obtain rfl : "**/dist" = directory := Option.some.inj prunes
    have tokens : Pattern.parse "**/dist" = .ok anyDist := rfl
    rw [tokens] at named
    cases named

/-- With the exclude pattern `**//**`, which leaves out no file, a scan lists none of those in
directories. -/
theorem sweeping_hides_source :
    sourcesAndBuild.Sound ∧
      PatternSet.parse ["**/*.ts"] ["**//**"] = .ok ⟨[scripts], [[.anyFront, .anyBack]], [[.anyFront]]⟩ ∧
      sourcesAndBuild.isDirectory ⟨"/w"⟩ = true ∧ sourcesAndBuild.isFile ⟨"/w/src/a.ts"⟩ = true ∧
      isEligible [⟨"/w"⟩] ⟨[scripts], [[.anyFront, .anyBack]], [[.anyFront]]⟩ ⟨"/w/src/a.ts"⟩ = true ∧
      scanRoots sourcesAndBuild ⟨[scripts], [[.anyFront, .anyBack]], [[.anyFront]]⟩ [⟨"/w"⟩] = [] :=
  ⟨by decide, rfl, by decide +kernel, by decide +kernel, by decide +kernel, by decide +kernel⟩

end

end RouteExplorer
