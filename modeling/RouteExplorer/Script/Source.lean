import RouteExplorer.Script.Syntax
import RouteExplorer.Text.Blank

namespace RouteExplorer.Script

/-- The characters of a script, and whether it is written in the dialect with markup elements. -/
structure Source where
  characters : Array Char
  markup : Bool

/-- A place in a text: lines before it, and bytes between the start of its line and it. -/
structure Position where
  row : Nat
  column : Nat
deriving DecidableEq, Repr

/-- The place behind one more character; only a line feed ends a line. -/
def Position.after (position : Position) (character : Char) : Position :=
  if character = '\n' then ⟨position.row + 1, 0⟩
  else { position with column := position.column + character.utf8Size }

namespace Source

def ofText (text : String) (markup : Bool) : Source := ⟨text.toList.toArray, markup⟩

def position (source : Source) (offset : Nat) : Position :=
  (source.characters.toList.take offset).foldl Position.after ⟨0, 0⟩

def slice (source : Source) (start stop : Nat) : List Char :=
  (source.characters.extract start stop).toList

/-- The characters of a node without blanks around them. -/
def textOf (source : Source) (tree : Syntax) : List Char :=
  Text.trimChars (source.slice tree.start tree.stop)

/-- White space between tokens, invisible joiners and marks included. Of the blanks only the next-line
character is none: it is part of a word. -/
def isSpace (character : Char) : Bool :=
  Text.isBlank character && character != '\u0085' || character == '\ufeff' || character == '\u2060' ||
    character == '\u200b'

def isLineEnd (character : Char) : Bool :=
  character == '\n' || character == '\u2028' || character == '\u2029'

structure Gap where
  stop : Nat
  breaksLine : Bool
  comments : List Syntax

def lineCommentEnd (source : Source) : Nat → Nat → Nat
  | 0, offset => offset
  | steps + 1, offset =>
    match source.characters[offset]? with
    | none => offset
    | some character =>
      if isLineEnd character || character == '\r' then offset
      else lineCommentEnd source steps (offset + 1)

/-- The end of a comment that runs to its closing mark, and whether it spans lines. -/
def blockCommentEnd (source : Source) : Nat → Nat → Bool → Nat × Bool
  | 0, offset, broken => (offset, broken)
  | steps + 1, offset, broken =>
    match source.characters[offset]?, source.characters[offset + 1]? with
    | some '*', some '/' => (offset + 2, broken)
    | some character, _ => blockCommentEnd source steps (offset + 1) (broken || isLineEnd character)
    | none, _ => (offset, broken)

def extendGap (source : Source) : Nat → Gap → Gap
  | 0, gap => gap
  | steps + 1, gap =>
    match source.characters[gap.stop]?, source.characters[gap.stop + 1]? with
    | some '/', some '/' =>
      let stop := lineCommentEnd source source.characters.size (gap.stop + 2)
      extendGap source steps
        { gap with stop, comments := gap.comments ++ [.leaf .comment gap.stop stop] }
    | some '/', some '*' =>
      let (stop, broken) := blockCommentEnd source source.characters.size (gap.stop + 2) false
      extendGap source steps
        ⟨stop, gap.breaksLine || broken, gap.comments ++ [.leaf .comment gap.stop stop]⟩
    | some character, _ =>
      if isSpace character then
        extendGap source steps
          { gap with stop := gap.stop + 1, breaksLine := gap.breaksLine || isLineEnd character }
      else gap
    | none, _ => gap

def gapAt (source : Source) (offset : Nat) : Gap :=
  extendGap source (source.characters.size + 1 - offset) ⟨offset, false, []⟩

end Source

end RouteExplorer.Script
