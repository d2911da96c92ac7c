import Mathlib.Data.Int.Log
import Mathlib.Data.Rat.Floor
import Mathlib.Tactic.Ring
import RouteExplorer.Number.Binary64

namespace RouteExplorer.Number

variable {factor numerator denominator : ℕ}

theorem roundHalfEven_mul (positive : 0 < factor) (numerator denominator : ℕ) :
    roundHalfEven (factor * numerator) (factor * denominator) = roundHalfEven numerator denominator := by
  have below (left right : ℕ) : 2 * (factor * left) < factor * right ↔ 2 * left < right := by
    rw [Nat.mul_left_comm, Nat.mul_lt_mul_left positive]
  have above (left right : ℕ) : factor * left < 2 * (factor * right) ↔ left < 2 * right := by
    rw [Nat.mul_left_comm, Nat.mul_lt_mul_left positive]
  simp only [roundHalfEven, Nat.mul_div_mul_left _ _ positive, Nat.mul_mod_mul_left, below, above]

theorem roundHalfEven_one (value : ℕ) : roundHalfEven value 1 = value := by
  simp [roundHalfEven, Nat.mod_one]

namespace Binary64

def leading (numerator denominator : ℕ) : Int :=
  let estimate : Int := (numerator.log2 : Int) - denominator.log2
  if decide (numerator * Nat.pow 2 (-estimate).toNat < denominator * Nat.pow 2 estimate.toNat) then estimate - 1
  else estimate

/-- A quotient that begins with a given power of two, rounded to that precision. -/
def roundedAt (negative : Bool) (numerator denominator : ℕ) (leading : Int) : Option Binary64 :=
  let exponent := max (leading - 52) leastExponent
  let mantissa := roundHalfEven (numerator * Nat.pow 2 (-exponent).toNat)
    (denominator * Nat.pow 2 exponent.toNat)
  let rounded : Binary64 :=
    if mantissa = Nat.pow 2 53 then ⟨negative, Nat.pow 2 52, exponent + 1⟩ else ⟨negative, mantissa, exponent⟩
  if greatestExponent < rounded.exponent then none else some rounded

theorem ofRatio?_eq (negative : Bool) (numerator denominator : ℕ) :
    ofRatio? negative numerator denominator =
      if numerator = 0 then some ⟨negative, 0, leastExponent⟩
      else roundedAt negative numerator denominator (leading numerator denominator) := rfl

private theorem two_zpow (power : ℤ) : (2 : ℚ) ^ power = 2 ^ power.toNat / 2 ^ (-power).toNat := by
  rw [← zpow_natCast, ← zpow_natCast, ← zpow_sub₀ two_ne_zero]
  congr 1
  omega

private theorem below_power_iff (positive : 0 < denominator) (power : ℤ) :
    numerator * Nat.pow 2 (-power).toNat < denominator * Nat.pow 2 power.toNat ↔
      (numerator / denominator : ℚ) < 2 ^ power := by
  have denominator_pos : (0 : ℚ) < denominator := Nat.cast_pos.mpr positive
  rw [two_zpow, div_lt_div_iff₀ denominator_pos (pow_pos two_pos _), mul_comm denominator]
  simp only [Nat.pow_eq]
  norm_cast

/-- The estimate from the sizes of the two numbers misses by one at most. -/
private theorem estimate_bounds (numerator_pos : 0 < numerator) (denominator_pos : 0 < denominator) :
    (2 : ℚ) ^ ((numerator.log2 : ℤ) - denominator.log2 - 1) ≤ numerator / denominator ∧
      (numerator / denominator : ℚ) < 2 ^ ((numerator.log2 : ℤ) - denominator.log2 + 1) := by
  have divisor_pos : (0 : ℚ) < denominator := Nat.cast_pos.mpr denominator_pos
  have numerator_le : (2 : ℚ) ^ (numerator.log2 : ℤ) ≤ numerator := by
    exact_mod_cast Nat.log2_self_le numerator_pos.ne'
  have numerator_lt : (numerator : ℚ) < 2 ^ (numerator.log2 + 1 : ℤ) := by
    exact_mod_cast Nat.lt_log2_self
  have denominator_le : (2 : ℚ) ^ (denominator.log2 : ℤ) ≤ denominator := by
    exact_mod_cast Nat.log2_self_le denominator_pos.ne'
  have denominator_lt : (denominator : ℚ) < 2 ^ (denominator.log2 + 1 : ℤ) := by
    exact_mod_cast Nat.lt_log2_self
  constructor
  · rw [le_div_iff₀ divisor_pos]
    calc (2 : ℚ) ^ ((numerator.log2 : ℤ) - denominator.log2 - 1) * denominator
        ≤ 2 ^ ((numerator.log2 : ℤ) - denominator.log2 - 1) * 2 ^ (denominator.log2 + 1 : ℤ) :=
          mul_le_mul_of_nonneg_left denominator_lt.le (zpow_pos two_pos _).le
      _ = 2 ^ (numerator.log2 : ℤ) := by
          rw [← zpow_add₀ two_ne_zero]
          congr 1
          omega
      _ ≤ numerator := numerator_le
  · rw [div_lt_iff₀ divisor_pos]
    calc (numerator : ℚ) < 2 ^ (numerator.log2 + 1 : ℤ) := numerator_lt
      _ = 2 ^ ((numerator.log2 : ℤ) - denominator.log2 + 1) * 2 ^ (denominator.log2 : ℤ) := by
          rw [← zpow_add₀ two_ne_zero]
          congr 1
          omega
      _ ≤ 2 ^ ((numerator.log2 : ℤ) - denominator.log2 + 1) * denominator :=
          mul_le_mul_of_nonneg_left denominator_le (zpow_pos two_pos _).le

theorem leading_eq_log (numerator_pos : 0 < numerator) (denominator_pos : 0 < denominator) :
    leading numerator denominator = Int.log 2 (numerator / denominator : ℚ) := by
  have quotient_pos : (0 : ℚ) < numerator / denominator :=
    div_pos (Nat.cast_pos.mpr numerator_pos) (Nat.cast_pos.mpr denominator_pos)
  obtain ⟨least, greatest⟩ := estimate_bounds numerator_pos denominator_pos
  have not_less : (numerator.log2 : ℤ) - denominator.log2 - 1 ≤ Int.log 2 (numerator / denominator : ℚ) :=
    (Int.zpow_le_iff_le_log one_lt_two quotient_pos).mp (by rwa [Nat.cast_ofNat])
  have less : Int.log 2 (numerator / denominator : ℚ) < (numerator.log2 : ℤ) - denominator.log2 + 1 :=
    (Int.lt_zpow_iff_log_lt one_lt_two quotient_pos).mp (by rwa [Nat.cast_ofNat])
  have compares : (numerator / denominator : ℚ) < 2 ^ ((numerator.log2 : ℤ) - denominator.log2) ↔
      Int.log 2 (numerator / denominator : ℚ) < (numerator.log2 : ℤ) - denominator.log2 := by
    simpa only [Nat.cast_ofNat] using
      Int.lt_zpow_iff_log_lt one_lt_two quotient_pos (x := (numerator.log2 : ℤ) - denominator.log2)
  simp only [leading, decide_eq_true_iff, below_power_iff denominator_pos, compares]
  split <;> omega

/-- A common factor does not matter. -/
theorem ofRatio?_mul (negative : Bool) (factor_pos : 0 < factor) (denominator_pos : 0 < denominator)
    (numerator : ℕ) :
    ofRatio? negative (factor * numerator) (factor * denominator) = ofRatio? negative numerator denominator := by
  rcases Nat.eq_zero_or_pos numerator with rfl | numerator_pos
  · rfl
  · have cancels : ((factor * numerator : ℕ) / (factor * denominator : ℕ) : ℚ) = numerator / denominator := by
      push_cast
      exact mul_div_mul_left _ _ (Nat.cast_ne_zero.mpr factor_pos.ne')
    have product_pos := Nat.mul_pos factor_pos numerator_pos
    rw [ofRatio?_eq, ofRatio?_eq, if_neg product_pos.ne', if_neg numerator_pos.ne',
      leading_eq_log product_pos (Nat.mul_pos factor_pos denominator_pos),
      leading_eq_log numerator_pos denominator_pos, cancels]
    simp only [roundedAt, Nat.mul_assoc, roundHalfEven_mul factor_pos]

structure IsNatural (number : Binary64) (value : ℕ) : Prop where
  positive : number.negative = false
  whole : number.numerator = value * number.denominator

private theorem leading_one {value : ℕ} (positive : 0 < value) : leading value 1 = value.log2 := by
  rw [leading_eq_log positive Nat.one_pos, Nat.cast_one, div_one, Int.log_natCast, Nat.log2_eq_log_two]

theorem exists_isNatural {value : ℕ} (small : value < 2 ^ 53) :
    ∃ number, ofNat? value = some number ∧ number.IsNatural value := by
  rcases Nat.eq_zero_or_pos value with rfl | positive
  · exact ⟨_, rfl, rfl, by simp [numerator]⟩
  · -- the number is shifted to 53 binary digits, of which none is lost
    have digits : value.log2 < 53 := (Nat.log2_lt positive.ne').mpr small
    obtain ⟨shift, full⟩ : ∃ shift, value.log2 + shift = 52 := ⟨52 - value.log2, by omega⟩
    have exponent : max ((value.log2 : ℤ) - 52) leastExponent = -(shift : ℤ) := by
      simp only [leastExponent]
      omega
    have mantissa : roundHalfEven (value * Nat.pow 2 (- -(shift : ℤ)).toNat)
        (1 * Nat.pow 2 (-(shift : ℤ)).toNat) = value * 2 ^ shift := by
      have up : (- -(shift : ℤ)).toNat = shift := by omega
      have down : (-(shift : ℤ)).toNat = 0 := by omega
      rw [up, down]
      exact roundHalfEven_one _
    have fits : value * 2 ^ shift < 2 ^ 53 := by
      calc value * 2 ^ shift
          < 2 ^ (value.log2 + 1) * 2 ^ shift := Nat.mul_lt_mul_of_pos_right Nat.lt_log2_self (Nat.two_pow_pos _)
        _ = 2 ^ 53 := by
            rw [← Nat.pow_add]
            congr 1
            omega
    refine ⟨⟨false, value * 2 ^ shift, -(shift : ℤ)⟩, ?_, rfl, ?_⟩
    · have reaches : ¬greatestExponent < -(shift : ℤ) := by
        simp only [greatestExponent]
        omega
      rw [ofNat?, ofRatio?_eq, if_neg positive.ne', leading_one positive]
      simp only [roundedAt, exponent, mantissa]
      have unequal : value * 2 ^ shift ≠ Nat.pow 2 53 := Nat.ne_of_lt fits
      rw [if_neg unequal, if_neg reaches]
    · have down : (-(shift : ℤ)).toNat = 0 := by omega
      simp [numerator, denominator, down]

/-- The quotient of natural numbers is rounded once. -/
theorem divide?_of_isNatural {left right : Binary64} {value divisor : ℕ} (left_whole : left.IsNatural value)
    (right_whole : right.IsNatural divisor) (divisor_pos : 0 < divisor) :
    left.divide? right = ofRatio? false value divisor := by
  have scale_pos (number : Binary64) : 0 < number.denominator := Nat.two_pow_pos _
  have numerators : left.numerator * right.denominator = (left.denominator * right.denominator) * value := by
    rw [left_whole.whole]
    ring
  have denominators : left.denominator * right.numerator = (left.denominator * right.denominator) * divisor := by
    rw [right_whole.whole]
    ring
  rw [divide?, numerators, denominators, left_whole.positive, right_whole.positive]
  exact ofRatio?_mul _ (Nat.mul_pos (scale_pos left) (scale_pos right)) divisor_pos value

end Binary64

end RouteExplorer.Number
