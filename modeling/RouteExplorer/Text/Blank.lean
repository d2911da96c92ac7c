namespace RouteExplorer.Text

/-- One of the 25 characters with the property White_Space. -/
def isBlank (character : Char) : Bool :=
  let code := character.toNat
  (0x09 ≤ code && code ≤ 0x0D) || code == 0x20 || code == 0x85 || code == 0xA0 || code == 0x1680 ||
    (0x2000 ≤ code && code ≤ 0x200A) || code == 0x2028 || code == 0x2029 || code == 0x202F ||
    code == 0x205F || code == 0x3000

/-- Drop the characters of a class at both ends. -/
def dropAround (inClass : Char → Bool) (characters : List Char) : List Char :=
  ((characters.dropWhile inClass).reverse.dropWhile inClass).reverse

def trimChars (characters : List Char) : List Char := dropAround isBlank characters

def trim (text : String) : String := String.ofList (trimChars text.toList)

def isAllBlank (text : String) : Bool := text.toList.all isBlank

end RouteExplorer.Text
