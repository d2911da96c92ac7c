import RouteExplorer.Proofs.Glob.Deepening
import RouteExplorer.Proofs.Text.Pieces

/-!
What is left of a pattern without its `/**`. It is a pattern again, unless the separator is escaped: then the
backslash before it escapes nothing any more.
-/
namespace RouteExplorer.Glob

/-- Whether the backslashes at the end are odd in number, so that the last of them escapes what comes next. -/
def endsInEscape (characters : List Char) : Bool :=
  (characters.reverse.takeWhile (· == '\\')).length % 2 == 1

theorem endsInEscape_append_cons (front : List Char) {stop : Char} (other : stop ≠ '\\') (back : List Char) :
    endsInEscape (front ++ stop :: back) = endsInEscape back := by
  have stops : (stop == '\\') = false := by simpa using other
  unfold endsInEscape
  rw [List.reverse_append, List.reverse_cons, List.append_assoc, List.singleton_append,
    Text.takeWhile_append_cons (· == '\\') stops]

theorem endsInEscape_cons {stop : Char} (other : stop ≠ '\\') (back : List Char) :
    endsInEscape (stop :: back) = endsInEscape back :=
  endsInEscape_append_cons [] other back

theorem endsInEscape_escaped (escaped : Char) (back : List Char) :
    endsInEscape ('\\' :: escaped :: back) = endsInEscape back := by
  by_cases other : escaped = '\\'
  · subst other
    unfold endsInEscape
    rw [List.reverse_cons, List.reverse_cons, List.append_assoc, List.takeWhile_append]
    split
    · next whole =>
      simp [whole]
    · rfl
  · exact endsInEscape_append_cons ['\\'] other back

theorem exists_of_classBody {isFirst inRange : Bool} {ranges found : List (Char × Char)}
    {characters after : List Char}
    (reads : classBody isFirst inRange ranges characters = .ok (found, after)) :
    ∃ front, characters = front ++ ']' :: after := by
  fun_induction classBody isFirst inRange ranges characters with
  | case1 => cases reads
  | case2 _ _ _ ih =>
    obtain ⟨front, shape⟩ := ih reads
    exact ⟨']' :: front, by rw [shape, List.cons_append]⟩
  | case3 =>
    cases reads
    exact ⟨[], rfl⟩
  | case4 _ _ _ ih | case6 _ _ _ _ _ _ ih =>
    obtain ⟨front, shape⟩ := ih reads
    exact ⟨'-' :: front, by rw [shape, List.cons_append]⟩
  | case5 _ _ _ _ ih =>
    obtain ⟨next, _, goes_on⟩ := bind_eq_ok.mp reads
    obtain ⟨front, shape⟩ := ih next goes_on
    exact ⟨'-' :: front, by rw [shape, List.cons_append]⟩
  | case7 _ _ _ character _ _ _ ih =>
    obtain ⟨next, _, goes_on⟩ := bind_eq_ok.mp reads
    obtain ⟨front, shape⟩ := ih next goes_on
    exact ⟨character :: front, by rw [shape, List.cons_append]⟩

theorem exists_of_classToken {characters after : List Char} {token : Token}
    (reads : classToken characters = .ok (token, after)) : ∃ front, characters = front ++ ']' :: after := by
  unfold classToken at reads
  split at reads
  all_goals
    obtain ⟨⟨ranges, rest⟩, body, shape⟩ := bind_eq_ok.mp reads
    cases shape
    obtain ⟨front, characters⟩ := exists_of_classBody body
  · exact ⟨'!' :: front, by rw [characters, List.cons_append]⟩
  · exact ⟨'^' :: front, by rw [characters, List.cons_append]⟩
  · exact ⟨front, characters⟩

/-- What comes behind a pattern without a bracket in it ends no class. -/
theorem classBody_of_append {isFirst inRange : Bool} {ranges found : List (Char × Char)}
    {characters after tail : List Char} (unclosed : ']' ∉ tail)
    (reads : classBody isFirst inRange ranges (characters ++ tail) = .ok (found, after)) :
    ∃ rest, after = rest ++ tail ∧ classBody isFirst inRange ranges characters = .ok (found, rest) := by
  fun_induction classBody isFirst inRange ranges characters with
  | case1 =>
    obtain ⟨front, shape⟩ := exists_of_classBody reads
    rw [List.nil_append] at shape
    exact absurd (shape ▸ by simp) unclosed
  | case2 _ _ _ ih => exact ih (by simpa [classBody] using reads)
  | case3 _ _ _ rest later =>
    simp only [List.cons_append, classBody, later, Bool.false_eq_true, ↓reduceIte, Except.ok.injEq,
      Prod.mk.injEq] at reads
    exact ⟨rest, reads.2.symm, by rw [reads.1]⟩
  | case4 _ _ _ ih => exact ih (by simpa [classBody] using reads)
  | case5 _ ranges _ later ih =>
    simp only [List.cons_append, classBody, later, Bool.false_eq_true, ↓reduceIte] at reads
    obtain ⟨next, extended, goes_on⟩ := bind_eq_ok.mp reads
    obtain ⟨rest, shape, body⟩ := ih next goes_on
    exact ⟨rest, shape, bind_eq_ok.mpr ⟨next, extended, body⟩⟩
  | case6 _ _ _ _ later closed ih => exact ih (by simpa [classBody, later, closed] using reads)
  | case7 _ inRange ranges character _ no_bracket no_hyphen ih =>
    rw [List.cons_append, classBody] at reads
    · obtain ⟨next, extended, goes_on⟩ := bind_eq_ok.mp reads
      obtain ⟨rest, shape, body⟩ := ih next goes_on
      exact ⟨rest, shape, bind_eq_ok.mpr ⟨next, extended, body⟩⟩
    · exact no_bracket
    · exact no_hyphen

theorem classOf_of_append {negated : Bool} {characters after tail : List Char} {token : Token}
    (unclosed : ']' ∉ tail) (reads : classOf negated (characters ++ tail) = .ok (token, after)) :
    ∃ rest, after = rest ++ tail ∧ classOf negated characters = .ok (token, rest) := by
  obtain ⟨⟨ranges, left⟩, body, shape⟩ := bind_eq_ok.mp reads
  cases shape
  obtain ⟨rest, rfl, before⟩ := classBody_of_append unclosed body
  exact ⟨rest, rfl, bind_eq_ok.mpr ⟨_, before, rfl⟩⟩

theorem classToken_of_append {characters after tail : List Char} {token : Token} (unclosed : ']' ∉ tail)
    (reads : classToken (characters ++ tail) = .ok (token, after)) :
    ∃ rest, after = rest ++ tail ∧ classToken characters = .ok (token, rest) := by
  cases characters with
  | nil =>
    obtain ⟨front, shape⟩ := exists_of_classToken reads
    rw [List.nil_append] at shape
    exact absurd (shape ▸ by simp) unclosed
  | cons head others =>
    unfold classToken at reads ⊢
    by_cases mark : head = '!'
    · subst mark
      exact classOf_of_append unclosed reads
    by_cases caret : head = '^'
    · subst caret
      exact classOf_of_append unclosed reads
    · split at reads
      · simp_all
      · simp_all
      split
      · simp_all
      · simp_all
      exact classOf_of_append unclosed reads

theorem doubleStar_rest (progress : Progress) (previous : Option Char) (rest : List Char) :
    (doubleStar progress previous rest).2.2 = rest ∨ rest = '/' :: (doubleStar progress previous rest).2.2 := by
  unfold doubleStar
  grind

section

variable {progress : Progress} {previous : Option Char} {character : Char} {rest : List Char}
  {result : Progress × Option Char × List Char}

/-- What is behind a token ends as the whole does: no token ends within an escape. -/
theorem Takes.endsInEscape_eq (takes : Takes progress previous character rest result) :
    endsInEscape (character :: rest) = endsInEscape result.2.2 := by
  cases takes with
  | @stars after _ means =>
    have stays := doubleStar_rest progress previous after
    rw [means] at stays
    rw [endsInEscape_cons (by decide), endsInEscape_cons (by decide)]
    obtain same | same := stays
    · rw [same]
    · rw [same, endsInEscape_cons (by decide)]
  | escaped escaped after => exact endsInEscape_escaped escaped after
  | oneOf found =>
    obtain ⟨front, rfl⟩ := exists_of_classToken found
    rw [endsInEscape_cons (by decide), endsInEscape_append_cons front (by decide)]
  | single _ _ noBackslash _ => exact endsInEscape_cons noBackslash rest

/-- Separators and stars open and close no group, and nothing else comes behind them. -/
theorem Takes.groups_eq (takes : Takes progress previous character rest result)
    (plain : character = '/' ∨ character = '*') : result.1.groups = progress.groups ∧ result.2.2 ⊆ rest := by
  cases takes with
  | @stars after _ means =>
    have groups := doubleStar_groups progress previous after
    have stays := doubleStar_rest progress previous after
    rw [means] at groups stays
    refine ⟨groups, fun other inside => List.mem_cons_of_mem _ ?_⟩
    obtain same | same := stays
    · exact same ▸ inside
    · exact same ▸ List.mem_cons_of_mem _ inside
  | escaped | oneOf => exact absurd plain (by decide)
  | single found =>
    rcases plain with rfl | rfl <;> cases found <;> exact ⟨rfl, List.Subset.refl _⟩

/-- What is read with `/**` behind a pattern is read without it, too, but for two stars at the end and for what ends
within an escape. -/
theorem Takes.of_append (takes : Takes progress previous character (rest ++ belowSuffix) result)
    (inside : ¬(character = '*' ∧ rest = ['*'])) (complete : endsInEscape (character :: rest) = false) :
    ∃ left, result.2.2 = left ++ belowSuffix ∧
      Takes progress previous character rest (result.1, result.2.1, left) := by
  generalize whole : rest ++ belowSuffix = characters at takes
  cases takes with
  | @stars after _ means =>
    cases rest with
    | nil => exact absurd (List.cons.inj whole).1 (by decide)
    | cons star others =>
      obtain ⟨rfl, rfl⟩ := List.cons.inj whole
      have filled : others ≠ [] := by
        rintro rfl
        exact inside ⟨rfl, rfl⟩
      rw [← means, List.append_eq, doubleStar_append progress previous filled belowSuffix]
      exact ⟨_, rfl, .stars rfl⟩
  | escaped escaped after =>
    cases rest with
    | nil => exact absurd complete (by decide)
    | cons head others =>
      obtain ⟨rfl, rfl⟩ := List.cons.inj whole
      exact ⟨others, rfl, .escaped head others⟩
  | oneOf found =>
    subst whole
    obtain ⟨left, rfl, before⟩ := classToken_of_append (by decide) found
    exact ⟨left, rfl, .oneOf before⟩
  | single found noBracket noBackslash alone =>
    subst whole
    refine ⟨rest, rfl, .single found noBracket noBackslash fun star stands => alone star ?_⟩
    rw [List.head?_append, stands]
    rfl

end

theorem not_endsInEscape_of_readTokens {steps : Nat} {progress : Progress} {previous : Option Char}
    {characters : List Char} {pattern : Pattern}
    (reads : readTokens steps progress previous characters = .ok pattern)
    (enough : characters.length ≤ steps) : endsInEscape characters = false := by
  induction steps generalizing progress previous characters with
  | zero =>
    obtain rfl := List.length_eq_zero_iff.mp (Nat.le_zero.mp enough)
    rfl
  | succ steps ih =>
    cases characters with
    | nil => rfl
    | cons character rest =>
      obtain ⟨result, takes, goes_on⟩ := readTokens_cons.mp reads
      rw [takes.endsInEscape_eq]
      exact ih goes_on (Nat.le_trans takes.length_le (Nat.le_of_succ_le_succ enough))

theorem closed_of_readTokens {steps : Nat} {progress : Progress} {previous : Option Char}
    {characters : List Char} {pattern : Pattern}
    (reads : readTokens steps progress previous characters = .ok pattern)
    (plain : ∀ character ∈ characters, character = '/' ∨ character = '*') : progress.groups.isEmpty := by
  have closed {progress : Progress} (ends : (if progress.groups.isEmpty then Except.ok progress.branch.reverse
      else .error Flaw.unclosedGroup) = .ok pattern) : progress.groups.isEmpty := by
    by_contra unclosed
    rw [if_neg unclosed] at ends
    cases ends
  induction steps generalizing progress previous characters with
  | zero => exact closed reads
  | succ steps ih =>
    cases characters with
    | nil => exact closed reads
    | cons character rest =>
      obtain ⟨result, takes, goes_on⟩ := readTokens_cons.mp reads
      obtain ⟨groups, among⟩ := takes.groups_eq (plain character List.mem_cons_self)
      rw [← groups]
      exact ih goes_on fun other inside => plain other (List.mem_cons_of_mem _ (among inside))

theorem exists_of_closed {progress : Progress} (closed : progress.groups.isEmpty) (steps : Nat)
    (previous : Option Char) : ∃ pattern, readTokens steps progress previous [] = .ok pattern :=
  ⟨_, (readTokens_nil steps progress previous).trans (if_pos closed)⟩

theorem plain_belowSuffix : ∀ character ∈ belowSuffix, character = '/' ∨ character = '*' := by
  simp [belowSuffix]

/-- If a pattern can be read with `/**` behind it, it can be read without, unless its end escapes. -/
theorem readTokens_of_append {steps : Nat} {progress : Progress} {previous : Option Char}
    {characters : List Char} {deeper : Pattern}
    (reads : readTokens (steps + 3) progress previous (characters ++ belowSuffix) = .ok deeper)
    (enough : characters.length ≤ steps) (complete : endsInEscape characters = false) :
    ∃ pattern, readTokens steps progress previous characters = .ok pattern := by
  induction steps generalizing progress previous characters with
  | zero =>
    obtain rfl := List.length_eq_zero_iff.mp (Nat.le_zero.mp enough)
    exact exists_of_closed (closed_of_readTokens reads plain_belowSuffix) _ _
  | succ steps ih =>
    cases characters with
    | nil => exact exists_of_closed (closed_of_readTokens reads plain_belowSuffix) _ _
    | cons character rest =>
      by_cases stars : character = '*' ∧ rest = ['*']
      · obtain ⟨rfl, rfl⟩ := stars
        have closed := closed_of_readTokens reads (by simp [belowSuffix])
        have stopped : (doubleStar progress previous []).2.2 = [] := by
          simpa using doubleStar_left progress previous []
        obtain ⟨pattern, read⟩ := exists_of_closed
          ((doubleStar_groups progress previous []).symm ▸ closed) steps (doubleStar progress previous []).2.1
        exact ⟨pattern, readTokens_cons.mpr ⟨_, .stars rfl, stopped.symm ▸ read⟩⟩
      · obtain ⟨result, takes, goes_on⟩ := readTokens_cons.mp reads
        obtain ⟨left, behind, before⟩ := takes.of_append stars complete
        rw [behind] at goes_on
        obtain ⟨pattern, read⟩ := ih goes_on (Nat.le_trans before.length_le (Nat.le_of_succ_le_succ enough))
          (before.endsInEscape_eq.symm.trans complete)
        exact ⟨pattern, readTokens_cons.mpr ⟨_, before, read⟩⟩

def IsPattern (text : String) : Prop := ∃ pattern, Pattern.parse text = .ok pattern

theorem isPattern_iff {text : String} :
    IsPattern text ↔ ∃ pattern, readTokens text.length .start none text.toList = .ok pattern := by
  unfold IsPattern Pattern.parse
  cases readTokens text.length .start none text.toList <;> simp

/-- What stands before the `/**` of a pattern is a pattern, unless the separator is escaped. -/
theorem isPattern_of_below {directory : String} (below : IsPattern (directory ++ String.ofList belowSuffix)) :
    IsPattern directory ↔ endsInEscape directory.toList = false := by
  have enough : directory.toList.length ≤ directory.length := Nat.le_of_eq String.length_toList
  obtain ⟨deeper, reads⟩ := isPattern_iff.mp below
  rw [String.length_append, String.toList_append, String.toList_ofList] at reads
  rw [isPattern_iff]
  constructor
  · rintro ⟨pattern, reads⟩
    exact not_endsInEscape_of_readTokens reads enough
  · exact readTokens_of_append reads enough

end RouteExplorer.Glob
