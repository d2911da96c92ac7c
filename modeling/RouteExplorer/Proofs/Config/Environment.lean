import RouteExplorer.Config.Loading
import RouteExplorer.Proofs.Glob.Truncation
import RouteExplorer.Proofs.Text.Pieces

namespace RouteExplorer

/-- A text that is not empty and has no blanks around it. -/
structure Unpadded (text : String) : Prop where
  filled : text ≠ ""
  front : ∀ first ∈ text.toList.head?, Text.isBlank first = false
  back : ∀ last ∈ text.toList.getLast?, Text.isBlank last = false

instance (text : String) : Decidable (Unpadded text) :=
  decidable_of_iff (text ≠ "" ∧ (text.toList.head?.all fun first => !Text.isBlank first) = true ∧
      (text.toList.getLast?.all fun last => !Text.isBlank last) = true) <| by
    simp only [Option.all_eq_true, Bool.not_eq_true']
    constructor
    · rintro ⟨filled, front, back⟩
      exact ⟨filled, front, back⟩
    · rintro ⟨filled, front, back⟩
      exact ⟨filled, front, back⟩

theorem Unpadded.trim {text : String} (unpadded : Unpadded text) : Text.trim text = text := by
  rw [Text.trim, Text.trimChars, Text.dropAround_eq_self unpadded.front unpadded.back, String.ofList_toList]

/-- Patterns in a text of joined ones are the patterns in each of them. -/
theorem splitPatterns_join (patterns : List String) :
    splitPatterns (Text.join ',' patterns) = patterns.flatMap splitPatterns := by
  by_cases empty : patterns = []
  · subst empty
    decide
  · unfold splitPatterns
    rw [Text.split_join_flatMap ',' empty, List.map_flatMap, List.filter_flatMap]

theorem splitPatterns_of_unpadded {pattern : String} (unpadded : Unpadded pattern) (whole : ',' ∉ pattern.toList) :
    splitPatterns pattern = [pattern] := by
  rw [splitPatterns, Text.split, Text.splitChars_of_not_mem ',' _ whole]
  simp [unpadded.trim, unpadded.filled]

theorem not_mem_of_mem_splitPatterns {text pattern : String} (member : pattern ∈ splitPatterns text) :
    ',' ∉ pattern.toList := by
  obtain ⟨listed, _⟩ := List.mem_filter.mp member
  obtain ⟨piece, cut, rfl⟩ := List.mem_map.mp listed
  rw [Text.trim, String.toList_ofList]
  exact fun inside => Text.not_mem_of_mem_split cut (Text.mem_of_mem_dropAround inside)

/-- Patterns come back from the text that they are joined to unless one of them holds a comma. -/
theorem splitPatterns_join_eq_iff {patterns : List String} (unpadded : ∀ pattern ∈ patterns, Unpadded pattern) :
    splitPatterns (Text.join ',' patterns) = patterns ↔ ∀ pattern ∈ patterns, ',' ∉ pattern.toList := by
  constructor
  · intro same pattern member
    rw [← same] at member
    exact not_mem_of_mem_splitPatterns member
  · intro whole
    calc splitPatterns (Text.join ',' patterns)
      _ = patterns.flatMap splitPatterns := splitPatterns_join patterns
      _ = patterns.flatMap fun pattern => [pattern] :=
        List.flatMap_congr fun pattern member =>
          splitPatterns_of_unpadded (unpadded pattern member) (whole pattern member)
      _ = patterns := List.flatMap_singleton' patterns

/-- A list of patterns in the environment, joined by commas, is the list that a configuration has afterwards, whatever
it had before, and changes nothing else in it, exactly if no pattern holds a comma. -/
theorem override_joined_iff (config : Config) (environment : Environment) {patterns : List String}
    (unpadded : ∀ pattern ∈ patterns, Unpadded pattern) :
    (config.override { environment with filePatterns := some (Text.join ',' patterns) } =
        { config.override environment with filePatterns := patterns } ↔
          ∀ pattern ∈ patterns, ',' ∉ pattern.toList) ∧
      (config.override { environment with excludePatterns := some (Text.join ',' patterns) } =
        { config.override environment with excludePatterns := patterns } ↔
          ∀ pattern ∈ patterns, ',' ∉ pattern.toList) := by
  rw [← splitPatterns_join_eq_iff unpadded]
  simp [Config.override]

theorem sourcePatterns_override :
    (∀ pattern ∈ ["src/**/*.ts", "lib/[!a-c] ?.ts"], Unpadded pattern) ∧
      (Config.default.override { Environment.empty with
          filePatterns := some (Text.join ',' ["src/**/*.ts", "lib/[!a-c] ?.ts"]) }).filePatterns =
        ["src/**/*.ts", "lib/[!a-c] ?.ts"] := by
  have unpadded : ∀ pattern ∈ ["src/**/*.ts", "lib/[!a-c] ?.ts"], Unpadded pattern := by decide
  refine ⟨unpadded, ?_⟩
  rw [(override_joined_iff .default .empty unpadded).1.mpr (by decide)]

/-- Alternatives are a pattern, and the comma between them tears it apart. -/
theorem alternatives_torn :
    Glob.IsPattern "\x7bsrc,lib\x7d/*.ts" ∧ Unpadded "\x7bsrc,lib\x7d/*.ts" ∧
      (Config.default.override { Environment.empty with
          filePatterns := some (Text.join ',' ["\x7bsrc,lib\x7d/*.ts"]) }).filePatterns =
        ["\x7bsrc", "lib\x7d/*.ts"] ∧
      ["\x7bsrc", "lib\x7d/*.ts"] ≠ ["\x7bsrc,lib\x7d/*.ts"] := by
  exact ⟨⟨_, rfl⟩, by decide, by decide +kernel, by decide⟩

end RouteExplorer
