import RouteExplorer.Json.Value

/-!
Reading typed data from JSON values. A record is written as an object, whose unknown fields are
ignored, or as an array of its fields in their declared order.
-/
namespace RouteExplorer.Json

namespace Value

def string? : Value → Option String
  | .string text => some text
  | _ => none

def bool? : Value → Option Bool
  | .bool value => some value
  | _ => none

def natural? : Value → Option Nat
  | .number (.integer value) => if 0 ≤ value ∧ value < Nat.pow 2 64 then some value.toNat else none
  | _ => none

def integer? : Value → Option Int
  | .number (.integer value) => if -Nat.pow 2 63 ≤ value ∧ value < Nat.pow 2 63 then some value else none
  | _ => none

def list? {α : Type} (decode : Value → Option α) : Value → Option (List α)
  | .array items => items.mapM decode
  | _ => none

def strings? : Value → Option (List String) := list? string?

/-- A case of an enumeration: its name, or an object with the name as the only key and null below
it. -/
def caseName? : Value → Option String
  | .string name => some name
  | .object [(name, .null)] => some name
  | _ => none

/-- The field of a key; null for a value without such a field. -/
def get (value : Value) (key : String) : Value :=
  match value with
  | .object fields => (fields.lookup key).getD .null
  | _ => .null

end Value

/-- The values found for the declared fields of a record. -/
structure Slots where
  /-- The record was written as an array. -/
  positional : Bool
  values : List (Option Value)

namespace Slots

/-- The value of the one spelling of a field that is present; two spellings at once are refused. -/
def spelled? (fields : Fields) (spellings : List String) : Option (Option Value) :=
  match fields.filter fun field => spellings.contains field.1 with
  | [] => some none
  | [field] => some (some field.2)
  | _ => none

/-- Distribute a record over its declared fields, each given with all its spellings. -/
def ofValue? (declared : List (List String)) : Value → Option Slots
  | .object fields => (declared.mapM (spelled? fields)).map (⟨false, ·⟩)
  | .array items =>
    if items.length ≤ declared.length then
      some ⟨true, items.map some ++ List.replicate (declared.length - items.length) none⟩
    else none
  | _ => none

def at? (slots : Slots) (index : Nat) : Option Value := (slots.values[index]?).join

def required {α : Type} (slots : Slots) (index : Nat) (decode : Value → Option α) : Option α :=
  (slots.at? index).bind decode

def withDefault {α : Type} (slots : Slots) (index : Nat) (default : α)
    (decode : Value → Option α) : Option α :=
  match slots.at? index with
  | some value => decode value
  | none => some default

/-- A field that may be absent from an object or null. -/
def optional {α : Type} (slots : Slots) (index : Nat) (decode : Value → Option α) :
    Option (Option α) :=
  match slots.at? index with
  | some .null => some none
  | some value => (decode value).map some
  | none => if slots.positional then none else some none

end Slots

end RouteExplorer.Json
