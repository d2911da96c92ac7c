/-!
Finite binary64 numbers as exact sign, mantissa and power of two. Every operation computes the
exact quotient of naturals first and rounds it once, to nearest with ties to even.
-/
namespace RouteExplorer.Number

/-- A finite binary64 number: `mantissa * 2 ^ exponent`, negated when `negative` holds. -/
structure Binary64 where
  negative : Bool
  mantissa : Nat
  exponent : Int
deriving DecidableEq, Repr

/-- A quotient rounded to the nearest natural, a half going to the even neighbour. -/
def roundHalfEven (numerator denominator : Nat) : Nat :=
  let quotient := numerator / denominator
  let remainder := numerator % denominator
  if 2 * remainder < denominator then quotient
  else if denominator < 2 * remainder then quotient + 1
  else quotient + quotient % 2

namespace Binary64

def leastExponent : Int := -1074

def greatestExponent : Int := 971

private def ratioBelowPower (numerator denominator : Nat) (power : Int) : Bool :=
  numerator * Nat.pow 2 (-power).toNat < denominator * Nat.pow 2 power.toNat

/-- The binary64 number nearest to a non-negative quotient, or none beyond the finite range. -/
def ofRatio? (negative : Bool) (numerator denominator : Nat) : Option Binary64 :=
  if numerator = 0 then some ⟨negative, 0, leastExponent⟩
  else
    let estimate : Int := (numerator.log2 : Int) - denominator.log2
    let leading := if ratioBelowPower numerator denominator estimate then estimate - 1 else estimate
    let exponent := max (leading - 52) leastExponent
    let mantissa := roundHalfEven (numerator * Nat.pow 2 (-exponent).toNat)
      (denominator * Nat.pow 2 exponent.toNat)
    let rounded : Binary64 :=
      if mantissa = Nat.pow 2 53 then ⟨negative, Nat.pow 2 52, exponent + 1⟩
      else ⟨negative, mantissa, exponent⟩
    if greatestExponent < rounded.exponent then none else some rounded

def ofNat? (value : Nat) : Option Binary64 := ofRatio? false value 1

def zero (negative : Bool) : Binary64 := ⟨negative, 0, leastExponent⟩

def isZero (value : Binary64) : Bool := value.mantissa == 0

def negate (value : Binary64) : Binary64 := { value with negative := !value.negative }

def numerator (value : Binary64) : Nat := value.mantissa * Nat.pow 2 value.exponent.toNat

def denominator (value : Binary64) : Nat := Nat.pow 2 (-value.exponent).toNat

/-- The rounded product, or none when it is not finite. -/
def multiply? (left right : Binary64) : Option Binary64 :=
  ofRatio? (left.negative != right.negative) (left.numerator * right.numerator)
    (left.denominator * right.denominator)

/-- The rounded quotient by a non-zero number, or none when it is not finite. -/
def divide? (left right : Binary64) : Option Binary64 :=
  ofRatio? (left.negative != right.negative) (left.numerator * right.denominator)
    (left.denominator * right.numerator)

end Binary64

end RouteExplorer.Number
