import RouteExplorer.Number.Binary64

namespace RouteExplorer.Json

open Number (Binary64)

/-- A JSON number: an integer of 64 bits, or any other number rounded to binary64. -/
inductive Numeral where
  | integer (value : Int)
  | real (value : Binary64)
deriving DecidableEq, Repr

/-- A JSON value. The fields of an object are kept in the order in which they are written. -/
inductive Value where
  | null
  | bool (value : Bool)
  | number (value : Numeral)
  | string (value : String)
  | array (items : List Value)
  | object (fields : List (String × Value))
deriving Repr

namespace Value

def natural (value : Nat) : Value := .number (.integer value)

def strings (values : List String) : Value := .array (values.map .string)

def emptyObject : Value := .object []

def isNull : Value → Bool
  | .null => true
  | _ => false

end Value

abbrev Fields := List (String × Value)

namespace Fields

/-- Put a field at its place in a list ordered by key; a field of the same key is replaced. -/
def insert (key : String) (value : Value) : Fields → Fields
  | [] => [(key, value)]
  | (other, kept) :: rest =>
    if key < other then (key, value) :: (other, kept) :: rest
    else if key = other then (key, value) :: rest
    else (other, kept) :: insert key value rest

/-- Order fields by key; of several fields with one key the last one stays. -/
def ordered (fields : Fields) : Fields :=
  fields.foldl (fun sorted field => insert field.1 field.2 sorted) []

end Fields

namespace Value

mutual

def ordered : Value → Value
  | .array items => .array (orderedItems items)
  | .object fields => .object (Fields.ordered (orderedFields fields))
  | other => other

def orderedItems : List Value → List Value
  | [] => []
  | item :: rest => item.ordered :: orderedItems rest

def orderedFields : List (String × Value) → List (String × Value)
  | [] => []
  | (key, value) :: rest => (key, value.ordered) :: orderedFields rest

end

end Value

end RouteExplorer.Json
