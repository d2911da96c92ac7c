namespace RouteExplorer.Text

/-- The pieces between the separators, in order; there is always at least one piece. -/
def splitChars (separator : Char) : List Char → List (List Char)
  | [] => [[]]
  | head :: rest =>
    if head = separator then [] :: splitChars separator rest
    else match splitChars separator rest with
      | [] => [[head]]
      | first :: others => (head :: first) :: others

def split (separator : Char) (text : String) : List String :=
  (splitChars separator text.toList).map String.ofList

/-- The pieces one after another, with the separator between two of them. -/
def joinChars (separator : Char) : List (List Char) → List Char
  | [] => []
  | [piece] => piece
  | piece :: others => piece ++ separator :: joinChars separator others

def join (separator : Char) (pieces : List String) : String :=
  String.ofList (joinChars separator (pieces.map String.toList))

theorem splitChars_ne_nil (separator : Char) (characters : List Char) :
    splitChars separator characters ≠ [] := by
  cases characters with
  | nil => simp [splitChars]
  | cons head rest =>
    unfold splitChars
    split
    · simp
    · split <;> simp

end RouteExplorer.Text
