import RouteExplorer.Number.Binary64

namespace RouteExplorer.Number

/-- The decimal `digits * 10 ^ exponent`. -/
structure Decimal where
  digits : Nat
  exponent : Int
deriving DecidableEq, Repr

/-- Compare `left * 10 ^ tens` with `right * 2 ^ twos`, exactly. -/
private def compareScaled (left : Nat) (tens : Int) (right : Nat) (twos : Int) : Ordering :=
  compare (left * Nat.pow 10 tens.toNat * Nat.pow 2 (-twos).toNat)
    (right * Nat.pow 2 twos.toNat * Nat.pow 10 (-tens).toNat)

/-- A decimal reads back to the number when it lies between the midpoints to both neighbours; the
midpoints themselves count exactly when the mantissa is even. -/
def Decimal.readsBackTo (decimal : Decimal) (value : Binary64) : Bool :=
  let narrowBelow := value.mantissa == Nat.pow 2 52 && Binary64.leastExponent < value.exponent
  let low := if narrowBelow then 4 * value.mantissa - 1 else 4 * value.mantissa - 2
  let high := 4 * value.mantissa + 2
  let closed := value.mantissa % 2 == 0
  let above := compareScaled decimal.digits decimal.exponent low (value.exponent - 2)
  let below := compareScaled decimal.digits decimal.exponent high (value.exponent - 2)
  (above == .gt || (closed && above == .eq)) && (below == .lt || (closed && below == .eq))

/-- The least power of ten above a non-zero number, counted from an estimate by its leading bit. -/
private def decimalScale (value : Binary64) : Int :=
  let leading : Int := (value.mantissa.log2 : Int) + value.exponent
  let estimate := leading * 30103 / 100000
  let above (power : Int) : Bool := compareScaled 1 power value.mantissa value.exponent == .gt
  (([estimate - 1, estimate, estimate + 1, estimate + 2].find? above).getD (estimate + 2))

/-- The best decimal with a given number of significant digits, if one reads back. -/
private def onGrid? (value : Binary64) (scale : Int) (count : Nat) : Option Decimal :=
  let grid := scale - count
  let lower := value.numerator * Nat.pow 10 (-grid).toNat / (value.denominator * Nat.pow 10 grid.toNat)
  let lowDecimal : Decimal := ⟨lower, grid⟩
  let highDecimal : Decimal := ⟨lower + 1, grid⟩
  match lowDecimal.readsBackTo value, highDecimal.readsBackTo value with
  | false, false => none
  | true, false => some lowDecimal
  | false, true => some highDecimal
  | true, true =>
    match compareScaled (2 * lower + 1) grid (2 * value.mantissa) value.exponent with
    | .gt => some lowDecimal
    | .lt => some highDecimal
    | .eq => if lower % 2 = 0 then some lowDecimal else some highDecimal

private def exactDecimal (value : Binary64) : Decimal :=
  ⟨value.numerator * Nat.pow 5 (-value.exponent).toNat, min value.exponent 0⟩

def Binary64.shortest (value : Binary64) : Decimal :=
  let scale := decimalScale value
  ((List.range 17).findSome? fun index => onGrid? value scale (index + 1)).getD (exactDecimal value)

/-- Significant digits without trailing zeros, and the exponent of the first of them. -/
def Decimal.significant (decimal : Decimal) : List Char × Int :=
  let characters := Nat.toDigits 10 decimal.digits
  let kept := (characters.reverse.dropWhile (· == '0')).reverse
  (kept, decimal.exponent + (characters.length : Int) - 1)

/-- Decimal exponents from -5 to 15 are written positionally and always with a fraction; any other
exponent is written after `e` with its sign. -/
def Decimal.render (decimal : Decimal) : String :=
  let (digits, leading) := decimal.significant
  let count : Int := digits.length
  if -5 ≤ leading ∧ leading ≤ 15 then
    if leading < 0 then
      "0." ++ String.ofList (List.replicate (-leading - 1).toNat '0' ++ digits)
    else if count ≤ leading + 1 then
      String.ofList (digits ++ List.replicate (leading + 1 - count).toNat '0') ++ ".0"
    else
      String.ofList (digits.take (leading + 1).toNat) ++ "." ++
        String.ofList (digits.drop (leading + 1).toNat)
  else
    let fraction := match digits.drop 1 with
      | [] => ""
      | rest => "." ++ String.ofList rest
    let sign := if leading < 0 then "-" else "+"
    String.ofList (digits.take 1) ++ fraction ++ "e" ++ sign ++ toString leading.natAbs

def Binary64.render (value : Binary64) : String :=
  let magnitude := if value.isZero then "0.0" else value.shortest.render
  if value.negative then "-" ++ magnitude else magnitude

end RouteExplorer.Number
