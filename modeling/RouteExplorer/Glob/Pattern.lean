namespace RouteExplorer.Glob

inductive Token where
  /-- A character that stands for itself. -/
  | literal (character : Char)
  /-- `?`: one byte other than the separator. -/
  | anyByte
  /-- `*`: any bytes other than the separator. -/
  | anyBytes
  /-- `**` at the front: nothing, or any parts with a separator behind them. -/
  | anyFront
  /-- `/**` at the end: a separator and anything after it. -/
  | anyBack
  /-- `/**/`: one separator, or any parts between two separators. -/
  | anyBetween
  /-- `[…]`: one of the listed characters, or with `!` or `^` any other byte. -/
  | oneOf (negated : Bool) (ranges : List (Char × Char))
  /-- `{…,…}`: one of several patterns. -/
  | alternatives (branches : List (List Token))
deriving Repr

abbrev Pattern := List Token

inductive Flaw where
  | unclosedClass
  | invalidRange (low high : Char)
  | unclosedGroup
  | unopenedGroup
  | danglingEscape
deriving DecidableEq, Repr

def Flaw.message : Flaw → String
  | .unclosedClass => "unclosed character class; missing ']'"
  | .invalidRange low high =>
    "invalid range; '" ++ low.toString ++ "' > '" ++ high.toString ++ "'"
  | .unclosedGroup =>
    "unclosed alternate group; missing '\x7d' (maybe escape '\x7b' with '[\x7b]'?)"
  | .unopenedGroup =>
    "unopened alternate group; missing '\x7b' (maybe escape '\x7d' with '[\x7d]'?)"
  | .danglingEscape => "dangling '\\'"

structure PatternError where
  text : String
  flaw : Flaw
deriving DecidableEq, Repr

namespace PatternError

def message (error : PatternError) : String := "invalid glob pattern: " ++ error.text

def cause (error : PatternError) : String :=
  "error parsing glob '" ++ error.text ++ "': " ++ error.flaw.message

end PatternError

end RouteExplorer.Glob
