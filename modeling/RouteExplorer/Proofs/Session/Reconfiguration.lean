import RouteExplorer.Proofs.Glob.Truncation
import RouteExplorer.Proofs.Index.Pruning
import RouteExplorer.Proofs.Session.Run

/-!
Taking over the patterns of a configuration. It is refused as a whole or taken over as a whole. A text that is
no pattern is a reason to refuse it, and there is one more: an exclude pattern whose last separator is escaped,
such as `dist\/**`. The directory that it would prune, `dist\`, is read as a pattern of its own, and is none.
-/
namespace RouteExplorer

open Glob

namespace Glob

/-- The separator of the `/**` that a text ends in has a backslash before it that escapes it. -/
def EscapesSeparator (text : String) : Prop :=
  ∃ directory, text = directory ++ String.ofList belowSuffix ∧ endsInEscape directory.toList = true

/-- A text is a pattern, and the pattern matches a path. -/
def Matches (text path : String) : Prop :=
  ∃ pattern, Pattern.parse text = .ok pattern ∧ pattern.isMatch path = true

namespace PatternSet

theorem prunedDirectory?_append {directory : String} (named : directory.toList ≠ []) :
    prunedDirectory? (directory ++ String.ofList belowSuffix) = some directory := by
  have nonempty : directory.toList.reverse ≠ [] := by simpa using named
  simp [prunedDirectory?, belowSuffix, String.toList_append, nonempty]

theorem exists_mapM {texts : List String} :
    (∃ patterns, texts.mapM Pattern.parse = .ok patterns) ↔ ∀ text ∈ texts, IsPattern text := by
  constructor
  · rintro ⟨patterns, read⟩ text member
    obtain ⟨pattern, _, found⟩ := (mapM_ok read).2 text member
    exact ⟨pattern, found⟩
  · intro each
    induction texts with
    | nil => exact ⟨[], rfl⟩
    | cons text rest ih =>
      obtain ⟨pattern, first⟩ := each text List.mem_cons_self
      obtain ⟨patterns, others⟩ := ih fun other member => each other (List.mem_cons_of_mem _ member)
      exact ⟨pattern :: patterns, by rw [List.mapM_cons, first, others]; rfl⟩

/-- The directories that patterns prune are patterns as well, unless a separator is escaped. -/
theorem pruned_arePatterns {excludes : List String} (each : ∀ text ∈ excludes, IsPattern text) :
    (∀ directory ∈ excludes.filterMap prunedDirectory?, IsPattern directory) ↔
      ¬∃ text ∈ excludes, EscapesSeparator text := by
  constructor
  · rintro pruned ⟨text, member, directory, rfl, escapes⟩
    have named : directory.toList ≠ [] := by
      rintro empty
      simp [empty, endsInEscape] at escapes
    have listed := List.mem_filterMap.mpr ⟨_, member, prunedDirectory?_append named⟩
    have complete := (isPattern_of_below (each _ member)).mp (pruned directory listed)
    simp [complete] at escapes
  · intro unescaped directory listed
    obtain ⟨text, member, prunes⟩ := List.mem_filterMap.mp listed
    obtain rfl := prunedDirectory?_eq_some prunes
    refine (isPattern_of_below (each _ member)).mpr (Bool.eq_false_iff.mpr fun escapes => ?_)
    exact unescaped ⟨_, member, directory, rfl, escapes⟩

theorem exists_parse_iff {includes excludes : List String} :
    (∃ patterns, parse includes excludes = .ok patterns) ↔
      (∀ text ∈ includes ++ excludes, IsPattern text) ∧ ¬∃ text ∈ excludes, EscapesSeparator text := by
  constructor
  · rintro ⟨patterns, read⟩
    obtain ⟨pruned, pruned_read, read⟩ := bind_eq_ok.mp read
    obtain ⟨included, included_read, read⟩ := bind_eq_ok.mp read
    obtain ⟨excluded, excluded_read, _⟩ := bind_eq_ok.mp read
    have each := exists_mapM.mp ⟨excluded, excluded_read⟩
    refine ⟨fun text member => ?_, (pruned_arePatterns each).mp (exists_mapM.mp ⟨pruned, pruned_read⟩)⟩
    rcases List.mem_append.mp member with inside | inside
    · exact exists_mapM.mp ⟨included, included_read⟩ text inside
    · exact each text inside
  · rintro ⟨each, unescaped⟩
    have excludes_each (text : String) (member : text ∈ excludes) : IsPattern text :=
      each text (List.mem_append_right _ member)
    obtain ⟨pruned, pruned_read⟩ := exists_mapM.mpr ((pruned_arePatterns excludes_each).mpr unescaped)
    obtain ⟨included, included_read⟩ := exists_mapM.mpr fun text member =>
      each text (List.mem_append_left excludes member)
    obtain ⟨excluded, excluded_read⟩ := exists_mapM.mpr excludes_each
    exact ⟨⟨included, excluded, pruned⟩, bind_eq_ok.mpr ⟨_, pruned_read,
      bind_eq_ok.mpr ⟨_, included_read, bind_eq_ok.mpr ⟨_, excluded_read, rfl⟩⟩⟩⟩

theorem any_isMatch_iff {texts : List String} {patterns : List Pattern}
    (read : texts.mapM Pattern.parse = .ok patterns) {path : String} :
    (patterns.any fun pattern => pattern.isMatch path) = true ↔ ∃ text ∈ texts, Matches text path := by
  obtain ⟨found, kept⟩ := mapM_ok read
  rw [List.any_eq_true]
  constructor
  · rintro ⟨pattern, member, matched⟩
    obtain ⟨text, present, parsed⟩ := found pattern member
    exact ⟨text, present, pattern, parsed, matched⟩
  · rintro ⟨text, present, pattern, parsed, matched⟩
    obtain ⟨other, member, same⟩ := kept text present
    obtain rfl : pattern = other := Except.ok.inj (parsed.symm.trans same)
    exact ⟨pattern, member, matched⟩

theorem selects_iff {includes excludes : List String} {patterns : PatternSet}
    (read : parse includes excludes = .ok patterns) {path : String} :
    patterns.selects path = true ↔
      (∃ text ∈ includes, Matches text path) ∧ ¬∃ text ∈ excludes, Matches text path := by
  obtain ⟨_, _, read⟩ := bind_eq_ok.mp read
  obtain ⟨included, included_read, read⟩ := bind_eq_ok.mp read
  obtain ⟨excluded, excluded_read, read⟩ := bind_eq_ok.mp read
  cases read
  rw [selects, Bool.and_eq_true, any_isMatch_iff included_read, Bool.not_eq_true', ← Bool.not_eq_true,
    any_isMatch_iff excluded_read]

end PatternSet

end Glob

/-- The patterns of a configuration leave a relative path in. -/
def Config.Selects (config : Config) (path : String) : Prop :=
  (∃ text ∈ config.filePatterns, Matches text path) ∧ ¬∃ text ∈ config.excludePatterns, Matches text path

namespace Session

/-- A configuration is not taken over. -/
def Refuses (session : Session) (config : Config) : Prop :=
  ∃ error, session.applyConfig config = .error error

/-- A configuration that is refused leaves everything as it is; of one that is taken over, the patterns alone
say which files are eligible, and nothing is known any more. -/
structure AllOrNothing (session : Session) (config : Config) : Prop where
  unchanged : session.Refuses config → ∀ disk, session.apply disk (.configured config) = (false, session)
  forgotten {next : Session} : session.applyConfig config = .ok next → next.index.cache = .empty
  eligible {next : Session} : session.applyConfig config = .ok next → ∀ path, next.isEligible path = true ↔
    ∃ root ∈ session.index.roots, ∃ relative, root.below? path = some relative ∧ config.Selects relative

theorem applyConfig_eq_ok {session next : Session} {config : Config} :
    session.applyConfig config = .ok next ↔ ∃ patterns, FileIndex.patternsOf config = .ok patterns ∧
      next = session.withIndex ⟨session.index.roots, patterns, session.index.overlay, .empty⟩ := by
  cases read : FileIndex.patternsOf config <;>
    simp [applyConfig, FileIndex.setPatterns, FileIndex.dispose, read, bind, Except.bind, eq_comm]

theorem refuses_iff {session : Session} {config : Config} :
    session.Refuses config ↔ (∃ text ∈ config.filePatterns ++ config.excludePatterns, ¬IsPattern text) ∨
      ∃ text ∈ config.excludePatterns, EscapesSeparator text := by
  have taken : session.Refuses config ↔ ¬∃ patterns, FileIndex.patternsOf config = .ok patterns := by
    unfold Refuses applyConfig FileIndex.setPatterns
    cases FileIndex.patternsOf config <;> simp [bind, Except.bind]
  rw [taken, FileIndex.patternsOf, PatternSet.exists_parse_iff]
  grind

theorem allOrNothing (session : Session) (config : Config) : session.AllOrNothing config where
  unchanged := by
    rintro ⟨error, refused⟩ disk
    simp [apply, applyBatch, absorbAll, absorb?, refused, Except.toOption]
  forgotten := by
    intro next taken
    obtain ⟨patterns, _, rfl⟩ := applyConfig_eq_ok.mp taken
    rfl
  eligible := by
    intro next taken path
    obtain ⟨patterns, read, rfl⟩ := applyConfig_eq_ok.mp taken
    have selects (relative : String) : patterns.selects relative = true ↔ config.Selects relative :=
      PatternSet.selects_iff read
    simp [isEligible, FileIndex.isEligible, RouteExplorer.isEligible, withIndex, index,
      Option.any_eq_true, selects]

/-- A configuration is refused exactly when one of its texts is no pattern or one of its exclude patterns
escapes the separator of its `/**`, and then as a whole. -/
theorem refuses_iff_and_allOrNothing (session : Session) (config : Config) :
    (session.Refuses config ↔ (∃ text ∈ config.filePatterns ++ config.excludePatterns, ¬IsPattern text) ∨
      ∃ text ∈ config.excludePatterns, EscapesSeparator text) ∧ session.AllOrNothing config :=
  ⟨refuses_iff, session.allOrNothing config⟩

def builtLeftOut : Config := { Config.default with
  filePatterns := ["**/*.ts"]
  excludePatterns := ["dist\\/**"] }

def overSources : Session := (Explorer.overDirectories [("src", "")]).session

/-- The pattern matches what lies below `dist`, yet it is refused, under a text that is not in the
configuration. -/
theorem builtLeftOut_refused :
    Matches "dist\\/**" "dist/a.ts" ∧
      overSources.applyConfig builtLeftOut = .error ⟨"dist\\", .danglingEscape⟩ ∧
      ¬(overSources.Refuses builtLeftOut ↔
        ∃ text ∈ builtLeftOut.filePatterns ++ builtLeftOut.excludePatterns, ¬IsPattern text) := by
  have scripts : IsPattern "**/*.ts" := ⟨_, rfl⟩
  have built : Pattern.parse "dist\\/**" =
      .ok [.literal 'd', .literal 'i', .literal 's', .literal 't', .anyBack] := rfl
  have refused : overSources.applyConfig builtLeftOut = .error ⟨"dist\\", .danglingEscape⟩ := rfl
  refine ⟨⟨_, built, by decide +kernel⟩, refused, fun claimed => ?_⟩
  obtain ⟨text, member, flawed⟩ := claimed.mp ⟨_, refused⟩
  obtain rfl | rfl : text = "**/*.ts" ∨ text = "dist\\/**" := by simpa [builtLeftOut] using member
  · exact flawed scripts
  · exact flawed ⟨_, built⟩

end Session

end RouteExplorer
