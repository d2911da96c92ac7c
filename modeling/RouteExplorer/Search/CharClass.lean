import RouteExplorer.Text.Blank
import RouteExplorer.Text.Folding
import RouteExplorer.Text.Letters

namespace RouteExplorer.Search

/-- What kind of character stands at a position. The separator of paths is the only delimiter. -/
inductive CharClass where
  | blank | symbol | delimiter | lower | upper | letter | digit
deriving DecidableEq, Repr

namespace CharClass

private def ofAscii (character : Char) : CharClass :=
  if character.isLower then .lower
  else if character.isUpper then .upper
  else if character.isDigit then .digit
  else if character = '/' then .delimiter
  else if character = ' ' ∨ character = '\t' ∨ character = '\n' ∨ character = '\x0c' ∨
      character = '\r' then .blank
  else .symbol

private def ofOther (character : Char) : CharClass :=
  if Text.isLowercase character then .lower
  else if Text.isFolded character then .upper
  else if Text.isNumber character then .digit
  else if Text.isAlphabetic character then .letter
  else if Text.isBlank character then .blank
  else .symbol

def ofChar (character : Char) : CharClass :=
  if character.toNat < 128 then ofAscii character else ofOther character

def inWord : CharClass → Bool
  | .lower | .upper | .letter | .digit => true
  | .blank | .symbol | .delimiter => false

end CharClass

/-- The bonus of a match at the beginning of a word behind a symbol, or at a character outside
words. -/
def boundaryBonus : Nat := 8

def delimiterBonus : Nat := 9

def changeBonus : Nat := 5

/-- The bonus of a matched character of a class behind a character of another class. -/
def positionBonus (before here : CharClass) : Nat :=
  if here.inWord && before == .delimiter then delimiterBonus
  else if here.inWord && (before == .blank || before == .symbol) then boundaryBonus
  else if (before == .lower && here == .upper) || (before != .digit && here == .digit) then
    changeBonus
  else if here == .blank || here == .symbol then boundaryBonus
  else 0

end RouteExplorer.Search
