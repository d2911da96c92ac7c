namespace RouteExplorer.Number.Unsigned

/-- The value of a digit; letters are digits from ten on. -/
def digit? (character : Char) : Option Nat :=
  if '0' ≤ character ∧ character ≤ '9' then some (character.toNat - '0'.toNat)
  else if 'a' ≤ character ∧ character ≤ 'z' then some (character.toNat - 'a'.toNat + 10)
  else if 'A' ≤ character ∧ character ≤ 'Z' then some (character.toNat - 'A'.toNat + 10)
  else none

def extend? (base value : Nat) (digits : List Char) : Option Nat :=
  digits.foldlM (fun value character => do
    let digit ← digit? character
    if digit < base ∧ value * base + digit < Nat.pow 2 64 then some (value * base + digit) else none) value

/-- The number that some digits of a base write; no digits write none. -/
def ofDigits? (base : Nat) (digits : List Char) : Option Nat :=
  if digits.isEmpty then none else extend? base 0 digits

def dropPlus : List Char → List Char
  | '+' :: digits => digits
  | digits => digits

def ofText? (text : String) : Option Nat := ofDigits? 10 (dropPlus text.toList)

/-- A number in a document, perhaps behind a plus sign: hexadecimal, octal or binary behind a mark,
or decimal without zeros in front. -/
def ofLiteral? (text : String) : Option Nat :=
  match dropPlus text.toList with
  | '0' :: 'x' :: digits => ofDigits? 16 digits
  | '0' :: 'o' :: digits => ofDigits? 8 digits
  | '0' :: 'b' :: digits => ofDigits? 2 digits
  | '0' :: _ :: _ => none
  | digits => ofDigits? 10 digits

end RouteExplorer.Number.Unsigned
