import Mathlib.Computability.RegularExpressions
import Mathlib.Data.List.TakeWhile
import Mathlib.Data.String.Basic
import RouteExplorer.Route.Template

namespace RouteExplorer.Template

def lettersAndUnderscore : List Char := "ABCDEFGHIJKLMNOPQRSTUVWXYZabcdefghijklmnopqrstuvwxyz_".toList

def digits : List Char := "0123456789".toList

def oneOf (characters : List Char) : RegularExpression Char := (characters.map .char).sum

/-- A letter or an underscore, and then letters, underscores and digits, as many as there are. -/
def nameExpression : RegularExpression Char :=
  oneOf lettersAndUnderscore * (oneOf (lettersAndUnderscore ++ digits)).star

/-- A colon and a name. The name is what is captured. -/
def parameterExpression : RegularExpression Char := .char ':' * nameExpression

theorem mem_char {character : Char} {word : List Char} :
    word ∈ (RegularExpression.char character).matches' ↔ word = [character] := Iff.rfl

theorem mem_oneOf {characters word : List Char} :
    word ∈ (oneOf characters).matches' ↔ ∃ character ∈ characters, word = [character] := by
  induction characters with
  | nil => simp [oneOf, RegularExpression.matches'_zero, Language.notMem_zero]
  | cons head rest ih =>
    have sum : oneOf (head :: rest) = .char head + oneOf rest := rfl
    rw [sum, RegularExpression.matches'_add, Language.mem_add, mem_char, ih]
    simp

theorem mem_star_oneOf {characters word : List Char} :
    word ∈ (oneOf characters).star.matches' ↔ ∀ character ∈ word, character ∈ characters := by
  rw [RegularExpression.matches'_star, Language.mem_kstar]
  constructor
  · rintro ⟨pieces, rfl, each⟩ character member
    obtain ⟨piece, listed, inside⟩ := List.mem_flatten.mp member
    obtain ⟨only, present, rfl⟩ := mem_oneOf.mp (each piece listed)
    obtain rfl := List.mem_singleton.mp inside
    exact present
  · intro each
    refine ⟨word.map fun character => [character], by simp [← List.flatMap_def], fun piece listed => ?_⟩
    obtain ⟨character, member, rfl⟩ := List.mem_map.mp listed
    exact mem_oneOf.mpr ⟨character, each character member, rfl⟩

theorem isNamePart_of_isNameStart {character : Char} (starts : isNameStart character = true) :
    isNamePart character = true := by
  simp only [isNameStart, isNamePart, Char.isAlphanum, Bool.or_eq_true] at starts ⊢
  exact starts.imp_left .inl

theorem toNat_lt_of_isNamePart {character : Char} (continues : isNamePart character = true) :
    character.toNat < 128 := by
  have upper (capital : character.isUpper = true) : character.toNat ≤ 90 :=
    UInt32.le_iff_toNat_le.mp (of_decide_eq_true capital).2
  have lower (small : character.isLower = true) : character.toNat ≤ 122 :=
    UInt32.le_iff_toNat_le.mp (of_decide_eq_true (Bool.and_eq_true_iff.mp small).2)
  have digit (numeral : character.isDigit = true) : character.toNat ≤ 57 :=
    UInt32.le_iff_toNat_le.mp (of_decide_eq_true (Bool.and_eq_true_iff.mp numeral).2)
  rcases Bool.or_eq_true_iff.mp continues with letterOrDigit | underscore
  · rcases Bool.or_eq_true_iff.mp letterOrDigit with letter | numeral
    · rcases Bool.or_eq_true_iff.mp letter with capital | small
      · exact Nat.lt_of_le_of_lt (upper capital) (by decide)
      · exact Nat.lt_of_le_of_lt (lower small) (by decide)
    · exact Nat.lt_of_le_of_lt (digit numeral) (by decide)
  · obtain rfl := beq_iff_eq.mp underscore
    decide

/-- A class of name characters is known by the codes below 128. -/
theorem mem_of_isNamePart {characters : List Char} {inClass : Char → Bool}
    (named : ∀ character, inClass character = true → isNamePart character = true)
    (listed : ((List.range 128).all fun code =>
      !inClass (.ofNat code) || characters.contains (.ofNat code)) = true)
    {character : Char} (belongs : inClass character = true) : character ∈ characters := by
  have small := toNat_lt_of_isNamePart (named character belongs)
  have here := List.all_eq_true.mp listed character.toNat (List.mem_range.mpr small)
  rw [character.ofNat_toNat, belongs] at here
  simpa using here

theorem mem_lettersAndUnderscore {character : Char} :
    character ∈ lettersAndUnderscore ↔ isNameStart character = true := by
  have all : lettersAndUnderscore.all isNameStart = true := by decide +kernel
  exact ⟨List.all_eq_true.mp all character,
    mem_of_isNamePart (fun _ => isNamePart_of_isNameStart) (by decide +kernel)⟩

theorem mem_nameCharacters {character : Char} :
    character ∈ lettersAndUnderscore ++ digits ↔ isNamePart character = true := by
  have all : (lettersAndUnderscore ++ digits).all isNamePart = true := by decide +kernel
  exact ⟨List.all_eq_true.mp all character, mem_of_isNamePart (fun _ => id) (by decide +kernel)⟩

theorem mem_parameterExpression {word : List Char} :
    word ∈ parameterExpression.matches' ↔ ∃ first rest, word = ':' :: first :: rest ∧
      isNameStart first = true ∧ ∀ next ∈ rest, isNamePart next = true := by
  simp only [parameterExpression, nameExpression, RegularExpression.matches'_mul, Language.mem_mul, mem_oneOf,
    mem_star_oneOf, mem_lettersAndUnderscore, mem_nameCharacters, mem_char]
  constructor
  · rintro ⟨_, rfl, _, ⟨_, ⟨first, starts, rfl⟩, rest, continues, rfl⟩, rfl⟩
    exact ⟨first, rest, rfl, starts, continues⟩
  · rintro ⟨first, rest, rfl, starts, continues⟩
    exact ⟨_, rfl, _, ⟨_, ⟨first, starts, rfl⟩, rest, continues, rfl⟩, rfl⟩

/-- The matches of an expression in a text, one after another. Repetitions take all that they can, so that the first
match is the longest one at the first place where there is any; the others are those in what is behind it. -/
inductive LeftmostMatches (expression : RegularExpression Char) : List Char → List (List Char) → Prop where
  | none {text : List Char} (absent : ∀ word ∈ expression.matches', ¬word <:+: text) :
      LeftmostMatches expression text []
  | next {text front found back : List Char} {later : List (List Char)} (splits : text = front ++ (found ++ back))
      (fits : found ∈ expression.matches')
      (first : ∀ word ∈ expression.matches', ∀ before after, text = before ++ (word ++ after) →
        front.length ≤ before.length)
      (longest : ∀ word ∈ expression.matches', word <+: found ++ back → word.length ≤ found.length)
      (onwards : LeftmostMatches expression back later) : LeftmostMatches expression text (found :: later)

namespace LeftmostMatches

variable {expression : RegularExpression Char} {text : List Char} {left right : List (List Char)}

theorem unique (one : LeftmostMatches expression text left) (other : LeftmostMatches expression text right) :
    left = right := by
  induction one generalizing right with
  | none absent =>
    cases other with
    | none _ => rfl
    | next splits fits _ _ _ => exact absurd ⟨_, _, by rw [splits, List.append_assoc]⟩ (absent _ fits)
  | @next text front found back later splits fits first longest onwards ih =>
    cases other with
    | none absent => exact absurd ⟨_, _, by rw [splits, List.append_assoc]⟩ (absent _ fits)
    | @next _ otherFront otherFound otherBack _ otherSplits otherFits otherFirst otherLongest otherOnwards =>
      -- both begin at the same place, and then neither is longer
      have place : front.length = otherFront.length :=
        Nat.le_antisymm (first _ otherFits _ _ otherSplits) (otherFirst _ fits _ _ splits)
      obtain ⟨rfl, same⟩ := List.append_inj (splits.symm.trans otherSplits) place
      have size : found.length = otherFound.length :=
        Nat.le_antisymm (otherLongest _ fits (same ▸ List.prefix_append found back))
          (longest _ otherFits (same ▸ List.prefix_append otherFound otherBack))
      obtain ⟨rfl, rfl⟩ := List.append_inj same size
      rw [ih otherOnwards]

/-- A character at which no match begins is passed over. -/
theorem cons {head : Char} {rest : List Char} (unmatched : ∀ word ∈ expression.matches', ¬word <+: head :: rest)
    (onwards : LeftmostMatches expression rest left) : LeftmostMatches expression (head :: rest) left := by
  cases onwards with
  | none absent =>
    exact .none fun word fits inside =>
      (List.infix_cons_iff.mp inside).elim (unmatched word fits) (absent word fits)
  | @next _ front found back later splits fits first longest behind =>
    have longer : head :: rest = head :: front ++ (found ++ back) := by rw [splits, List.cons_append]
    refine .next longer fits (fun word other before after cut => ?_) longest behind
    cases before with
    | nil => exact absurd ⟨after, cut.symm⟩ (unmatched word other)
    | cons skipped before =>
      obtain ⟨rfl, further⟩ := List.cons.inj cut
      exact Nat.succ_le_succ (first word other before after further)

end LeftmostMatches

def parameterChars : List Char → List (List Char)
  | [] => []
  | [_] => []
  | mark :: first :: rest =>
    if mark = ':' ∧ isNameStart first then
      (first :: rest.takeWhile isNamePart) :: parameterChars (rest.dropWhile isNamePart)
    else parameterChars (first :: rest)
termination_by characters => characters.length
decreasing_by
  · have := (List.dropWhile_suffix (l := rest) isNamePart).length_le
    simp only [List.length_cons]
    omega
  · simp

theorem leftmostMatches_parameterChars (text : List Char) :
    LeftmostMatches parameterExpression text ((parameterChars text).map (':' :: ·)) := by
  fun_induction parameterChars text with
  | case1 =>
    refine .none fun word fits inside => ?_
    obtain ⟨_, _, rfl, _⟩ := mem_parameterExpression.mp fits
    simp at inside
  | case2 last =>
    refine .none fun word fits inside => ?_
    obtain ⟨_, _, rfl, _⟩ := mem_parameterExpression.mp fits
    have longer := inside.length_le
    simp at longer
  | case3 mark first rest named ih =>
    obtain ⟨rfl, starts⟩ := named
    have splits : ':' :: first :: rest =
        [] ++ ((':' :: first :: rest.takeWhile isNamePart) ++ rest.dropWhile isNamePart) := by simp
    refine .next splits ?_ (fun _ _ _ _ _ => Nat.zero_le _) ?_ ih
    · exact mem_parameterExpression.mpr ⟨first, _, rfl, starts, fun next member => List.mem_takeWhile_imp member⟩
    · intro word fits begins
      obtain ⟨other, others, rfl, _, continues⟩ := mem_parameterExpression.mp fits
      rw [List.cons_append, List.cons_append, List.takeWhile_append_dropWhile, List.cons_prefix_cons,
        List.cons_prefix_cons] at begins
      obtain ⟨behind, rfl⟩ := begins.2.2
      rw [List.takeWhile_append_of_pos continues]
      simp
  | case4 mark first rest unnamed ih =>
    refine .cons (fun word fits begins => unnamed ?_) ih
    obtain ⟨other, others, rfl, starts, _⟩ := mem_parameterExpression.mp fits
    obtain ⟨colon, onwards⟩ := List.cons_prefix_cons.mp begins
    obtain ⟨same, _⟩ := List.cons_prefix_cons.mp onwards
    exact ⟨colon.symm, same ▸ starts⟩

open String (utf8Len)

abbrev offsetOf (front : List Char) : String.Pos.Raw := ⟨utf8Len front⟩

theorem offsetOf_add (front : List Char) (next : Char) : offsetOf front + next = offsetOf (front ++ [next]) := by
  simp [String.Pos.Raw.ext_iff, String.Pos.Raw.byteIdx_add_char]

theorem nameEnd_eq (front characters : List Char) : nameEnd (offsetOf front) characters =
    (offsetOf (front ++ characters.takeWhile isNamePart), characters.dropWhile isNamePart) := by
  induction characters generalizing front with
  | nil => simp [nameEnd]
  | cons next rest ih =>
    rw [nameEnd, offsetOf_add, ih, List.takeWhile_cons, List.dropWhile_cons]
    split <;> simp

/-- A stretch with its ends between characters of a text, or at the ends of it. -/
structure Stretch.Fits (stretch : Stretch) (text : String) : Prop where
  ordered : stretch.start ≤ stretch.stop
  start : stretch.start.IsValid text
  stop : stretch.stop.IsValid text

theorem isValid_offsetOf {text : String} {front back : List Char} (splits : text.toList = front ++ back) :
    (offsetOf front).IsValid text := by
  rw [String.Pos.Raw.isValid_iff_exists_append]
  refine ⟨String.ofList front, String.ofList back, ?_, by simp⟩
  rw [← String.ofList_append, ← splits, String.ofList_toList]

theorem fits_of_splits {text : String} {front inside back : List Char}
    (splits : text.toList = front ++ (inside ++ back)) :
    (Stretch.mk (offsetOf front) (offsetOf (front ++ inside))).Fits text where
  ordered := by simp [String.Pos.Raw.le_iff]
  start := isValid_offsetOf splits
  stop := isValid_offsetOf (by rw [splits, List.append_assoc])

theorem textIn_of_splits {text : String} {front inside back : List Char}
    (splits : text.toList = front ++ (inside ++ back)) :
    (Stretch.mk (offsetOf front) (offsetOf (front ++ inside))).textIn text = String.ofList inside := by
  have whole : text = String.ofList (front ++ inside ++ back) := by
    rw [List.append_assoc, ← splits, String.ofList_toList]
  rw [Stretch.textIn, whole, offsetOf, offsetOf, String.utf8Len_append]
  exact String.extract_of_valid front inside back

/-- Among the characters behind some front, the stretches are those of the names. -/
theorem nameStretches_cut {path : String} (front : List Char) {left : List Char}
    (splits : path.toList = front ++ left) :
    (nameStretches (offsetOf front) left).map (·.textIn path) = (parameterChars left).map String.ofList ∧
      ∀ stretch ∈ nameStretches (offsetOf front) left, stretch.Fits path := by
  fun_induction parameterChars left generalizing front with
  | case1 => simp [nameStretches]
  | case2 => simp [nameStretches]
  | case3 mark first rest named ih =>
    have continues := isNamePart_of_isNameStart named.2
    have name : (first :: rest).takeWhile isNamePart = first :: rest.takeWhile isNamePart :=
      List.takeWhile_cons_of_pos continues
    have behind : (first :: rest).dropWhile isNamePart = rest.dropWhile isNamePart :=
      List.dropWhile_cons_of_pos continues
    have cut : path.toList =
        (front ++ [mark]) ++ ((first :: rest.takeWhile isNamePart) ++ rest.dropWhile isNamePart) := by
      simp [splits]
    obtain ⟨texts, fits⟩ := ih (front ++ [mark] ++ (first :: rest.takeWhile isNamePart)) (by simp [splits])
    rw [nameStretches, if_pos named]
    dsimp only
    rw [offsetOf_add, nameEnd_eq, name, behind]
    exact ⟨by rw [List.map_cons, List.map_cons, texts, textIn_of_splits cut],
      List.forall_mem_cons.mpr ⟨fits_of_splits cut, fits⟩⟩
  | case4 mark first rest unnamed ih =>
    rw [nameStretches, if_neg unnamed, offsetOf_add]
    exact ih _ (by simp [splits])

theorem parameters_eq (path : String) : parameters path = (parameterChars path.toList).map String.ofList :=
  (nameStretches_cut [] rfl).1

/-- The parameters of a path are what the expression captures, in each of its matches from the left. Each is cut out
of the path by a stretch that begins and ends between characters. -/
theorem parameters_captured (path : String) :
    (∀ found, LeftmostMatches parameterExpression path.toList found ↔
      found = (parameters path).map fun name => ':' :: name.toList) ∧
      ∀ stretch ∈ nameStretches 0 path.toList, stretch.Fits path := by
  have scanned := leftmostMatches_parameterChars path.toList
  have captured : (parameterChars path.toList).map (':' :: ·) =
      (parameters path).map fun name => ':' :: name.toList := by simp [parameters_eq]
  rw [captured] at scanned
  refine ⟨fun found => ⟨fun matched => matched.unique scanned, ?_⟩, (nameStretches_cut [] rfl).2⟩
  rintro rfl
  exact scanned

/-- A letter that is not ASCII ends a name, and of colons in a row the last one counts. -/
example : parameters "/cäts/:id/:1/::_x9é:" = ["id", "_x9"] := by decide +kernel

end RouteExplorer.Template
