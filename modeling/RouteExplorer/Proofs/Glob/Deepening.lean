import RouteExplorer.Glob.Parser
import RouteExplorer.Proofs.Glob.Language
import RouteExplorer.Proofs.Text.ByteOrder

/-!
What `/**` behind a pattern does to its tokens. It adds a wildcard for whatever lies below, unless the
pattern ends in such a wildcard or is a bare `**` already. A path that the pattern matches then has all
that lies below it matched by the longer one.
-/
namespace RouteExplorer.Glob

def belowSuffix : List Char := ['/', '*', '*']

/-- The tokens of a pattern and of the same pattern with `/**` behind it. -/
inductive Deepens : Pattern → Pattern → Prop where
  | added (pattern : Pattern) : Deepens pattern (pattern ++ [.anyBack])
  | kept (front : Pattern) : Deepens (front ++ [.anyBack]) (front ++ [.anyBack])
  | everything : Deepens [.anyFront] [.anyFront]

theorem bind_eq_ok {ε α β : Type} {read : Except ε α} {next : α → Except ε β} {result : β} :
    (read >>= next) = .ok result ↔ ∃ middle, read = .ok middle ∧ next middle = .ok result := by
  cases read <;> simp [bind, Except.bind]

/-- Reading a class does not look behind its closing bracket. -/
theorem classBody_append {isFirst inRange : Bool} {ranges found : List (Char × Char)}
    {characters after : List Char}
    (reads : classBody isFirst inRange ranges characters = .ok (found, after)) (tail : List Char) :
    classBody isFirst inRange ranges (characters ++ tail) = .ok (found, after ++ tail) ∧
      after.length < characters.length := by
  fun_induction classBody isFirst inRange ranges characters with
  | case1 => simp at reads
  | case2 _ _ _ ih | case4 _ _ _ ih =>
    obtain ⟨longer, shorter⟩ := ih reads
    exact ⟨by simpa [classBody] using longer, Nat.lt_succ_of_lt shorter⟩
  | case3 _ _ _ _ later =>
    simp only [Except.ok.injEq, Prod.mk.injEq] at reads
    simp [classBody, later, reads]
  | case5 _ ranges _ later ih =>
    obtain ⟨next, extended, goes_on⟩ := bind_eq_ok.mp reads
    obtain ⟨longer, shorter⟩ := ih next goes_on
    refine ⟨?_, Nat.lt_succ_of_lt shorter⟩
    simp only [List.cons_append, classBody, later, Bool.false_eq_true, ↓reduceIte]
    exact bind_eq_ok.mpr ⟨next, extended, longer⟩
  | case6 _ _ _ _ later closed ih =>
    obtain ⟨longer, shorter⟩ := ih reads
    exact ⟨by simpa [classBody, later, closed] using longer, Nat.lt_succ_of_lt shorter⟩
  | case7 _ inRange ranges character _ no_bracket no_hyphen ih =>
    obtain ⟨next, extended, goes_on⟩ := bind_eq_ok.mp reads
    obtain ⟨longer, shorter⟩ := ih next goes_on
    refine ⟨?_, Nat.lt_succ_of_lt shorter⟩
    rw [List.cons_append, classBody]
    · exact bind_eq_ok.mpr ⟨next, extended, longer⟩
    · exact no_bracket
    · exact no_hyphen

def classOf (negated : Bool) (characters : List Char) : Except Flaw (Token × List Char) := do
  let (ranges, after) ← classBody true false [] characters
  .ok (.oneOf negated ranges, after)

theorem classOf_append {negated : Bool} {characters after : List Char} {token : Token}
    (reads : classOf negated characters = .ok (token, after)) (tail : List Char) :
    classOf negated (characters ++ tail) = .ok (token, after ++ tail) ∧
      after.length < characters.length ∧ token ≠ .anyFront := by
  obtain ⟨⟨ranges, rest⟩, found, shape⟩ := bind_eq_ok.mp reads
  cases shape
  obtain ⟨longer, shorter⟩ := classBody_append found tail
  exact ⟨bind_eq_ok.mpr ⟨_, longer, rfl⟩, shorter, by simp⟩

theorem classToken_append {characters after : List Char} {token : Token}
    (reads : classToken characters = .ok (token, after)) (tail : List Char) :
    classToken (characters ++ tail) = .ok (token, after ++ tail) ∧ after.length < characters.length ∧
      token ≠ .anyFront := by
  unfold classToken at reads
  split at reads
  · obtain ⟨longer, shorter, other⟩ := classOf_append reads tail
    exact ⟨longer, Nat.lt_succ_of_lt shorter, other⟩
  · obtain ⟨longer, shorter, other⟩ := classOf_append reads tail
    exact ⟨longer, Nat.lt_succ_of_lt shorter, other⟩
  · next no_mark no_caret =>
    obtain ⟨longer, shorter, other⟩ := classOf_append reads tail
    refine ⟨?_, shorter, other⟩
    cases characters with
    | nil => simp at shorter
    | cons head rest =>
      rw [List.cons_append] at longer ⊢
      unfold classToken
      split
      · next same =>
        obtain ⟨rfl, _⟩ := List.cons.inj same
        exact (no_mark _ rfl).elim
      · next same =>
        obtain ⟨rfl, _⟩ := List.cons.inj same
        exact (no_caret _ rfl).elim
      · exact longer

/-- Only in first place a branch has the wildcard for any parts at the front. -/
def Progress.Headed (progress : Progress) : Prop :=
  ∀ earlier, progress.branch = .anyFront :: earlier → earlier = []

theorem Progress.headed_push (progress : Progress) {token : Token} (other : token ≠ .anyFront) :
    (progress.push token).Headed := by
  intro earlier shape
  exact absurd (List.cons.inj shape).1 other

theorem Progress.headed_of_empty {progress : Progress} (empty : progress.branch = []) :
    progress.Headed := by
  intro earlier shape
  simp [empty] at shape

theorem Progress.headed_closed {progress next : Progress} (closes : progress.closeGroup? = some next) :
    next.Headed := by
  intro earlier shape
  unfold closeGroup? at closes
  split at closes
  · simp at closes
  · cases closes
    simp at shape

theorem Progress.headed_comma (progress : Progress) : progress.comma.Headed := by
  unfold comma
  split
  · exact progress.headed_push (by simp)
  · exact headed_of_empty rfl

@[simp] theorem Progress.widen_groups (progress : Progress) (wildcard : Token) :
    (progress.widen wildcard).groups = progress.groups := by
  unfold widen
  split <;> rfl

theorem Progress.Headed.widen {progress : Progress} (headed : progress.Headed) {wildcard : Token}
    (other : wildcard ≠ .anyFront) : (progress.widen wildcard).Headed := by
  unfold Progress.widen
  split
  · exact headed
  · exact headed
  · intro earlier shape
    exact absurd (List.cons.inj shape).1 other
  · exact headed

/-- What two stars mean depends on the next character only. -/
theorem doubleStar_append (progress : Progress) (previous : Option Char) {rest : List Char}
    (nonempty : rest ≠ []) (tail : List Char) :
    doubleStar progress previous (rest ++ tail) =
      ((doubleStar progress previous rest).1, (doubleStar progress previous rest).2.1,
        (doubleStar progress previous rest).2.2 ++ tail) := by
  obtain ⟨head, others, rfl⟩ := List.exists_cons_of_ne_nil nonempty
  by_cases slash : head = '/'
  · subst slash
    unfold doubleStar
    split
    · rfl
    · split <;> rfl
  · rw [List.cons_append]
    unfold doubleStar
    grind

theorem doubleStar_left (progress : Progress) (previous : Option Char) (rest : List Char) :
    (doubleStar progress previous rest).2.2.length ≤ rest.length := by
  unfold doubleStar
  grind

theorem Progress.Headed.doubleStar {progress : Progress} (headed : progress.Headed)
    (previous : Option Char) (rest : List Char) : (doubleStar progress previous rest).1.Headed := by
  have plain : ((progress.push .anyBytes).push .anyBytes).Headed := headed_push _ (by simp)
  have back : (progress.widen .anyBack).Headed := headed.widen (by simp)
  have between : (progress.widen .anyBetween).Headed := headed.widen (by simp)
  have front (empty : progress.branch.isEmpty) : (progress.push .anyFront).Headed := by
    intro earlier shape
    have same : progress.branch = earlier := (List.cons.inj shape).2
    rw [← same]
    exact List.isEmpty_iff.mp empty
  unfold Glob.doubleStar
  grind

@[simp] theorem doubleStar_groups (progress : Progress) (previous : Option Char) (rest : List Char) :
    (doubleStar progress previous rest).1.groups = progress.groups := by
  unfold doubleStar
  grind [Progress.push, Progress.widen_groups]

/-- What a token can be, and what it is read to: the progress behind it, its last character, and what is left. -/
inductive Takes (progress : Progress) (previous : Option Char) :
    Char → List Char → Progress × Option Char × List Char → Prop
  | stars {after : List Char} {result : Progress × Option Char × List Char}
      (means : doubleStar progress previous after = result) : Takes progress previous '*' ('*' :: after) result
  | escaped (escaped : Char) (after : List Char) :
      Takes progress previous '\\' (escaped :: after) (progress.push (.literal escaped), some escaped, after)
  | oneOf {rest after : List Char} {token : Token} (reads : classToken rest = .ok (token, after)) :
      Takes progress previous '[' rest (progress.push token, some ']', after)
  | single {character : Char} {rest : List Char} {next : Progress} (reads : progress.single character = .ok next)
      (noBracket : character ≠ '[') (noBackslash : character ≠ '\\')
      (alone : character = '*' → rest.head? ≠ some '*') :
      Takes progress previous character rest (next, some character, rest)

variable {progress : Progress} {previous : Option Char} {character : Char} {rest : List Char}
  {result : Progress × Option Char × List Char}

theorem readToken_eq_ok :
    readToken progress previous character rest = .ok result ↔ Takes progress previous character rest result := by
  constructor
  · intro reads
    fun_cases readToken progress previous character rest with
    | case1 after => exact .stars (Except.ok.inj reads)
    | case2 escaped after =>
      cases reads
      exact .escaped escaped after
    | case3 => cases reads
    | case4 =>
      obtain ⟨⟨token, after⟩, found, shape⟩ := bind_eq_ok.mp reads
      cases shape
      exact .oneOf found
    | case5 _ _ noBracket noStars noEscape noEnd =>
      rw [readToken] at reads
      · obtain ⟨next, found, shape⟩ := bind_eq_ok.mp reads
        cases shape
        refine .single found noBracket ?_ ?_
        · rintro rfl
          cases rest with
          | nil => exact noEnd rfl rfl
          | cons escaped after => exact noEscape escaped after rfl rfl
        · rintro rfl stands
          obtain ⟨after, rfl⟩ := List.head?_eq_some_iff.mp stands
          exact noStars after rfl rfl
      all_goals assumption
  · rintro (means | _ | found | ⟨found, noBracket, noBackslash, alone⟩)
    · rw [readToken, means]
    · rfl
    · exact bind_eq_ok.mpr ⟨_, found, rfl⟩
    · rw [readToken]
      · exact bind_eq_ok.mpr ⟨_, found, rfl⟩
      · exact noBracket
      · rintro after rfl rfl
        exact alone rfl rfl
      · rintro _ _ rfl
        exact absurd rfl noBackslash
      · rintro rfl
        exact absurd rfl noBackslash

theorem Takes.length_le (takes : Takes progress previous character rest result) :
    result.2.2.length ≤ rest.length := by
  cases takes with
  | @stars after _ means =>
    rw [← means, List.length_cons]
    exact Nat.le_succ_of_le (doubleStar_left progress previous after)
  | escaped => exact Nat.le_succ _
  | oneOf found => exact Nat.le_of_lt (classToken_append found []).2.1
  | single => exact Nat.le_refl _

theorem Progress.headed_single {next : Progress} (reads : progress.single character = .ok next) : next.Headed := by
  unfold single at reads
  split at reads
  · cases reads
    exact progress.headed_push (by simp)
  · cases reads
    exact progress.headed_push (by simp)
  · cases reads
    exact headed_of_empty rfl
  · split at reads
    · next closes =>
      cases reads
      exact headed_closed closes
    · cases reads
  · cases reads
    exact progress.headed_comma
  · cases reads
    exact progress.headed_push (by simp)

theorem Progress.Headed.takes (headed : progress.Headed) (takes : Takes progress previous character rest result) :
    result.1.Headed := by
  cases takes with
  | @stars after _ means => exact means ▸ headed.doubleStar previous after
  | escaped => exact progress.headed_push (by simp)
  | oneOf found => exact progress.headed_push (classToken_append found []).2.2
  | single found => exact Progress.headed_single found

/-- A token is read as before with `/**` behind the pattern, but for two stars at the end of it. -/
theorem Takes.append (takes : Takes progress previous character rest result)
    (inside : ¬(character = '*' ∧ rest = ['*'])) :
    Takes progress previous character (rest ++ belowSuffix) (result.1, result.2.1, result.2.2 ++ belowSuffix) := by
  cases takes with
  | @stars after _ means =>
    have filled : after ≠ [] := by
      rintro rfl
      exact inside ⟨rfl, rfl⟩
    rw [← means, List.cons_append]
    exact .stars (doubleStar_append progress previous filled belowSuffix)
  | escaped escaped after => exact .escaped escaped (after ++ belowSuffix)
  | oneOf found => exact .oneOf (classToken_append found belowSuffix).1
  | single found noBracket noBackslash alone =>
    refine .single found noBracket noBackslash fun star stands => alone star ?_
    cases rest with
    | nil => exact absurd stands (by decide)
    | cons => exact stands

theorem readTokens_nil (steps : Nat) (progress : Progress) (previous : Option Char) :
    readTokens steps progress previous [] =
      if progress.groups.isEmpty then .ok progress.branch.reverse else .error .unclosedGroup := by
  cases steps <;> rfl

theorem doubleStar_of_front {progress : Progress} (front : progress.branch = [])
    (previous : Option Char) :
    doubleStar progress previous [] = (progress.push .anyFront, none, []) ∧
      ∀ after, doubleStar progress previous ('/' :: after) =
        (progress.push .anyFront, some '/', after) := by
  unfold doubleStar
  simp [front]

/-- Whether two stars that do not stand at the front are two plain ones whatever follows. -/
def Plain (progress : Progress) (previous : Option Char) : Prop :=
  previous ≠ some '/' ∧
    (progress.groups.isEmpty ∨ (previous ≠ some ',' ∧ previous ≠ some '\x7b'))

theorem doubleStar_of_plain {progress : Progress} (behind : progress.branch ≠ [])
    {previous : Option Char} (plain : Plain progress previous) (rest : List Char) :
    doubleStar progress previous rest =
      ((progress.push .anyBytes).push .anyBytes, some '*', rest) := by
  have behind : ¬progress.branch.isEmpty := mt List.isEmpty_iff.mp behind
  unfold doubleStar
  rw [if_neg behind]
  exact if_pos plain

theorem doubleStar_of_wide {progress : Progress} (behind : progress.branch ≠ [])
    {previous : Option Char} (wide : ¬Plain progress previous) :
    doubleStar progress previous [] = (progress.widen .anyBack, none, []) ∧
      ∀ after, doubleStar progress previous ('/' :: after) =
        (progress.widen .anyBetween, some '/', after) := by
  have behind : ¬progress.branch.isEmpty := mt List.isEmpty_iff.mp behind
  unfold doubleStar
  rw [if_neg behind]
  refine ⟨if_neg wide, fun after => ?_⟩
  rw [if_neg behind]
  exact if_neg wide

theorem readTokens_cons {steps : Nat} {pattern : Pattern} :
    readTokens (steps + 1) progress previous (character :: rest) = .ok pattern ↔
      ∃ result, Takes progress previous character rest result ∧
        readTokens steps result.1 result.2.1 result.2.2 = .ok pattern := by
  rw [readTokens, bind_eq_ok]
  exact exists_congr fun _ => and_congr_left' readToken_eq_ok

theorem readTokens_twoStars (steps : Nat) (progress : Progress) (closed : progress.groups.isEmpty)
    (behind : progress.branch ≠ []) :
    readTokens (steps + 1) progress (some '/') ['*', '*'] =
      .ok (progress.widen .anyBack).branch.reverse := by
  have wide : ¬Plain progress (some '/') := fun plain => plain.1 rfl
  refine readTokens_cons.mpr ⟨_, .stars (doubleStar_of_wide behind wide).1, ?_⟩
  rw [readTokens_nil, Progress.widen_groups, if_pos closed]

theorem readTokens_below (steps : Nat) (progress : Progress) (closed : progress.groups.isEmpty)
    (previous : Option Char) :
    readTokens (steps + 3) progress previous belowSuffix = .ok (progress.branch.reverse ++ [.anyBack]) := by
  have stars := readTokens_twoStars (steps + 1) (progress.push (.literal '/')) closed (by simp [Progress.push])
  refine readTokens_cons.mpr ⟨_, .single rfl (by decide) (by decide) (by decide), stars.trans ?_⟩
  simp [Progress.widen, Progress.push]

theorem readTokens_end_below {steps : Nat} {progress : Progress} {previous : Option Char} {pattern : Pattern}
    (reads : readTokens steps progress previous [] = .ok pattern) :
    ∃ deeper, readTokens (steps + 3) progress previous belowSuffix = .ok deeper ∧ Deepens pattern deeper := by
  rw [readTokens_nil] at reads
  split at reads
  · next closed =>
    cases reads
    exact ⟨_, readTokens_below steps progress closed previous, .added _⟩
  · cases reads

/-- Where a pattern ends in two stars, `/**` adds a wildcard only if they are two plain ones. -/
theorem doubleStar_below (steps : Nat) {progress : Progress} (headed : progress.Headed)
    (closed : progress.groups.isEmpty) (previous : Option Char) :
    ∃ deeper,
      readTokens (steps + 3) (doubleStar progress previous belowSuffix).1
          (doubleStar progress previous belowSuffix).2.1
          (doubleStar progress previous belowSuffix).2.2 = .ok deeper ∧
        Deepens (doubleStar progress previous []).1.branch.reverse deeper := by
  by_cases front : progress.branch = []
  · obtain ⟨before, after⟩ := doubleStar_of_front front previous
    have stars := readTokens_twoStars (steps + 2) (progress.push .anyFront) closed (by simp [Progress.push])
    rw [before, belowSuffix, after]
    refine ⟨_, stars, ?_⟩
    simpa [Progress.push, Progress.widen, front] using Deepens.everything
  by_cases plain : Plain progress previous
  · rw [doubleStar_of_plain front plain, doubleStar_of_plain front plain]
    exact ⟨_, readTokens_below steps ((progress.push .anyBytes).push .anyBytes) closed _, .added _⟩
  · obtain ⟨before, after⟩ := doubleStar_of_wide front plain
    have stays : (progress.widen .anyBetween).branch ≠ [] := by
      unfold Progress.widen
      split <;> simp_all
    have stars := readTokens_twoStars (steps + 2) (progress.widen .anyBetween) (by simpa using closed) stays
    rw [before, belowSuffix, after]
    refine ⟨_, stars, ?_⟩
    obtain ⟨last, earlier, shape⟩ := List.exists_cons_of_ne_nil front
    cases last with
    | anyFront =>
      obtain rfl := headed earlier shape
      simpa [Progress.widen, shape] using Deepens.everything
    | anyBack => simpa [Progress.widen, shape] using Deepens.kept earlier.reverse
    | _ => simpa [Progress.widen, shape] using Deepens.kept earlier.reverse

theorem readTokens_stars_below (steps : Nat) {progress : Progress} (headed : progress.Headed)
    (previous : Option Char) {pattern : Pattern}
    (reads : readTokens (steps + 1) progress previous ['*', '*'] = .ok pattern) :
    ∃ deeper, readTokens (steps + 4) progress previous ('*' :: '*' :: belowSuffix) = .ok deeper ∧
      Deepens pattern deeper := by
  obtain ⟨result, takes, goes_on⟩ := readTokens_cons.mp reads
  cases takes with
  | single _ _ _ alone => exact absurd rfl (alone rfl)
  | stars means =>
    subst means
    have stopped : (doubleStar progress previous []).2.2 = [] := by
      simpa using doubleStar_left progress previous []
    rw [stopped, readTokens_nil, doubleStar_groups] at goes_on
    split at goes_on
    · next closed =>
      obtain ⟨deeper, read, deepens⟩ := doubleStar_below steps headed closed previous
      rw [Except.ok.inj goes_on] at deepens
      exact ⟨deeper, readTokens_cons.mpr ⟨_, .stars rfl, read⟩, deepens⟩
    · cases goes_on

/-- Reading a pattern with `/**` behind it gives the tokens of the pattern, deepened. -/
theorem readTokens_append {steps : Nat} {progress : Progress} {previous : Option Char}
    {characters : List Char} {pattern : Pattern}
    (reads : readTokens steps progress previous characters = .ok pattern) (headed : progress.Headed)
    (enough : characters.length ≤ steps) :
    ∃ deeper, readTokens (steps + 3) progress previous (characters ++ belowSuffix) = .ok deeper ∧
      Deepens pattern deeper := by
  induction steps generalizing progress previous characters with
  | zero =>
    obtain rfl := List.length_eq_zero_iff.mp (Nat.le_zero.mp enough)
    exact readTokens_end_below reads
  | succ steps ih =>
    cases characters with
    | nil => exact readTokens_end_below reads
    | cons character rest =>
      by_cases stars : character = '*' ∧ rest = ['*']
      · obtain ⟨rfl, rfl⟩ := stars
        exact readTokens_stars_below steps headed previous reads
      · obtain ⟨result, takes, goes_on⟩ := readTokens_cons.mp reads
        have left := Nat.le_trans takes.length_le (Nat.le_of_succ_le_succ enough)
        obtain ⟨deeper, read, deepens⟩ := ih goes_on (headed.takes takes) left
        exact ⟨deeper, readTokens_cons.mpr ⟨_, takes.append stars, read⟩, deepens⟩

/-- With `/**` behind it, a pattern stays a pattern, and its tokens are those of the pattern, deepened. -/
theorem Pattern.parse_below {text : String} {pattern : Pattern} (reads : parse text = .ok pattern) :
    ∃ deeper, parse (text ++ String.ofList belowSuffix) = .ok deeper ∧ Deepens pattern deeper := by
  unfold parse at reads
  split at reads
  · next found read =>
    cases reads
    obtain ⟨deeper, behind, deepens⟩ := readTokens_append read
      (Progress.headed_of_empty rfl) (Nat.le_of_eq String.length_toList)
    refine ⟨deeper, ?_, deepens⟩
    unfold parse
    rw [String.toList_append, String.toList_ofList, String.length_append]
    have length : (String.ofList belowSuffix).length = 3 := rfl
    rw [length, behind]
  · cases reads

theorem toUTF8_append (front back : String) :
    (front ++ back).toUTF8.toList = front.toUTF8.toList ++ back.toUTF8.toList := by
  simp [Text.toList_bytes, String.toByteArray_append]

theorem tokenShapes_append (front back : List Token) :
    tokenShapes (front ++ back) = tokenShapes front ++ tokenShapes back := by
  induction front with
  | nil => rfl
  | cons token rest ih => simp [tokenShapes, ih]

namespace Pattern

open Shape (Describes)

theorem shape_of_ne {pattern : Pattern} (proper : pattern ≠ [.anyFront]) :
    pattern.shape = .sequence (tokenShapes pattern) := by
  unfold shape
  split
  · exact absurd rfl proper
  · rfl

theorem describes_anyBack {bytes : List UInt8} :
    Describes (.sequence (tokenShapes [.anyBack])) bytes ↔ ∃ rest, bytes = separator :: rest := by
  constructor
  · intro described
    cases described with
    | append first last =>
      cases last
      cases first with
      | append slash any =>
        cases slash with
        | byte inside =>
          simp only [ByteSet.contains, beq_iff_eq] at inside
          exact ⟨_, by rw [List.append_nil, inside]; rfl⟩
  · rintro ⟨rest, rfl⟩
    have slash : Describes Shape.slash [separator] := .byte (by simp [ByteSet.contains])
    have any : Describes (.sequence [.many .all]) (rest ++ []) := .append (.many fun _ _ => rfl) .nothing
    have whole := Describes.append (Describes.append slash any) .nothing
    simpa [tokenShapes, Token.shape] using whole

theorem isMatch_anyBack {front : Pattern} {path : String} :
    Pattern.isMatch (front ++ [.anyBack]) path = true ↔
      ∃ before rest, Describes (.sequence (tokenShapes front)) before ∧
        path.toUTF8.toList = before ++ separator :: rest := by
  have proper : front ++ [.anyBack] ≠ [.anyFront] := by
    intro same
    have last := congrArg List.getLast? same
    simp at last
  have noDot : Pattern.endsInDot (front ++ [.anyBack]) = false := by simp [endsInDot]
  rw [isMatch, matchesBytes, noDot, shape_of_ne proper, tokenShapes_append]
  simp only [Bool.false_and, Bool.not_false, Bool.true_and, Shape.accepts_iff,
    Shape.describes_sequence_append, describes_anyBack]
  constructor
  · rintro ⟨before, _, first, ⟨rest, rfl⟩, whole⟩
    exact ⟨before, rest, first, whole⟩
  · rintro ⟨before, rest, first, whole⟩
    exact ⟨before, _, first, ⟨rest, rfl⟩, whole⟩

theorem isMatch_everything (path : String) : Pattern.isMatch [.anyFront] path = true := by
  have described : Describes (.many .all) path.toUTF8.toList := .many fun _ _ => rfl
  have accepted := (Shape.accepts_iff _ _).mpr described
  simpa [isMatch, matchesBytes, endsInDot, shape] using accepted

end Pattern

/-- If a pattern matches a path, the same pattern with `/**` behind it matches all that lies below the
path, unless the pattern matches everything and the longer one does not. -/
theorem Deepens.isMatch_below {pattern deeper : Pattern} (deepens : Deepens pattern deeper)
    (proper : pattern = [.anyFront] → deeper = [.anyFront]) {front : String}
    (matched : pattern.isMatch front = true) (back : String) :
    deeper.isMatch (front ++ "/" ++ back) = true := by
  have slash : "/".toUTF8.toList = [separator] := by decide +kernel
  have bytes : (front ++ "/" ++ back).toUTF8.toList =
      front.toUTF8.toList ++ separator :: back.toUTF8.toList := by
    rw [toUTF8_append, toUTF8_append, slash, List.append_assoc, List.singleton_append]
  cases deepens with
  | everything => exact Pattern.isMatch_everything _
  | kept earlier =>
    obtain ⟨before, rest, described, whole⟩ := Pattern.isMatch_anyBack.mp matched
    refine Pattern.isMatch_anyBack.mpr ⟨before, rest ++ separator :: back.toUTF8.toList, described, ?_⟩
    rw [bytes, whole, List.append_assoc, List.cons_append]
  | added =>
    have other : pattern ≠ [.anyFront] := by
      intro same
      have longer := congrArg List.length ((proper same).trans same.symm)
      simp at longer
    simp only [Pattern.isMatch, Pattern.matchesBytes, Bool.and_eq_true, Pattern.shape_of_ne other,
      Shape.accepts_iff] at matched
    exact Pattern.isMatch_anyBack.mpr ⟨_, _, matched.2, bytes⟩

end RouteExplorer.Glob
