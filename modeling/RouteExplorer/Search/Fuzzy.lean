import RouteExplorer.Search.CharClass
import RouteExplorer.Text.Accents
import RouteExplorer.Text.Graphemes

/-!
Fuzzy matching: the characters of a needle must occur in a haystack in order, with gaps between
them. Matches at beginnings of words and runs of consecutive characters score high, gaps cost.
Case is ignored, and so are accents of the haystack when the needle has none.

Texts of ASCII characters are compared character by character; other texts by their user-perceived
characters, each of which counts as its first character.
-/
namespace RouteExplorer.Search

structure Match where
  score : Nat
  positions : List Nat
deriving DecidableEq, Repr

structure Place where
  /-- The character as it is compared. -/
  folded : Char
  /-- The class of the character as it is written. -/
  kind : CharClass
  /-- The bonus for a match here. -/
  bonus : Nat
deriving DecidableEq, Repr

def matchScore : Nat := 16

def gapStartCost : Nat := 3

def gapExtensionCost : Nat := 1

/-- The least bonus of a match right behind another one. -/
def consecutiveBonus : Nat := 4

def isAscii (text : List Char) : Bool := text.all fun character => character.toNat < 128

/-- The characters of a text that count, each in lower case where the text is ASCII. -/
def comparable (text : List Char) : List Char :=
  if isAscii text then text else Text.clusterHeads text

def foldNeedle (needle : List Char) : List Char :=
  if isAscii needle then needle.map Char.toLower
  else (Text.clusterHeads needle).map Text.foldCase

/-- Accents of the haystack are ignored when no character of the needle has one. -/
def ignoresAccents (folded : List Char) : Bool :=
  folded.all fun character => Text.dropAccent character == character

private def foldHaystackChar (plain : Bool) (character : Char) : Char :=
  if character.toNat < 128 then character.toLower
  else Text.foldCase (if plain then Text.dropAccent character else character)

private def placesAfter (plain : Bool) (before : CharClass) : List Char → List Place
  | [] => []
  | character :: rest =>
    let kind := CharClass.ofChar character
    ⟨foldHaystackChar plain character, kind, positionBonus before kind⟩ ::
      placesAfter plain kind rest

/-- The positions of a haystack; the text begins as if a delimiter stood in front of it. -/
def places (plain : Bool) (heads : List Char) : List Place := placesAfter plain .delimiter heads

/-- A walk along the haystack that takes every needle character at its first occurrence. -/
private structure Walk where
  score : Nat
  /-- The bonus that began the current run of matches. -/
  runBonus : Nat
  inRun : Bool
  inGap : Bool
  wanted : Char
  later : List Char
  positions : List Nat

private def Walk.advance (walk : Walk) (index : Nat) (place : Place) : Walk :=
  if place.folded = walk.wanted then
    let runBonus :=
      if !walk.inRun then place.bonus
      else if boundaryBonus ≤ place.bonus ∧ walk.runBonus < place.bonus then place.bonus
      else walk.runBonus
    let bonus :=
      if walk.inRun then max (max place.bonus runBonus) consecutiveBonus else place.bonus
    { score := walk.score + matchScore + bonus
      runBonus
      inRun := true
      inGap := false
      wanted := walk.later.headD walk.wanted
      later := walk.later.tail
      positions := index :: walk.positions }
  else
    { walk with
      score := walk.score - (if walk.inGap then gapExtensionCost else gapStartCost)
      inRun := false
      inGap := true }

private def Walk.along (walk : Walk) (index : Nat) : List Place → Walk
  | [] => walk
  | place :: rest => Walk.along (walk.advance index place) (index + 1) rest

/-- The match that starts at the first of the given places, which holds the first character of the
needle, and ends at the last of them. -/
private def scoreBetween (needle : List Char) (start : Nat) : List Place → Option Match
  | [] => none
  | first :: rest =>
    let walk : Walk :=
      { score := matchScore + 2 * first.bonus
        runBonus := first.bonus
        inRun := true
        inGap := false
        wanted := (needle.drop 1).headD (needle.headD ' ')
        later := needle.drop 2
        positions := [start] }
    let final := walk.along (start + 1) rest
    some ⟨final.score, final.positions.reverse⟩

/-- The best way to have matched the needle up to one of its characters with that character at one
place. -/
private structure Hit where
  score : Nat
  /-- The character before it was matched right before this place. -/
  consecutive : Bool
  bonus : Nat

/-- What is known for one needle character and one place. -/
private structure Cell where
  /-- The best score with that character matched before this place. -/
  gapScore : Nat
  /-- That character was matched right before this place. -/
  gapOpens : Bool
  hit : Option Hit

private def firstHit (needle : Char) (place : Place) : Option Hit :=
  if place.folded = needle then some ⟨matchScore + 2 * place.bonus, false, place.bonus⟩ else none

private def laterHit (needle : Char) (place : Place) (before : Cell) : Option Hit :=
  if place.folded = needle then
    match before.hit with
    | none => some ⟨before.gapScore + place.bonus + matchScore, false, place.bonus⟩
    | some last =>
      let kept := max last.bonus consecutiveBonus
      let runBonus := if boundaryBonus ≤ place.bonus ∧ kept < place.bonus then place.bonus else kept
      let joined := last.score + max runBonus place.bonus
      let apart := before.gapScore + place.bonus
      if apart < joined then some ⟨joined + matchScore, true, runBonus⟩
      else some ⟨apart + matchScore, false, place.bonus⟩
  else none

/-- The cells of one row from left to right; `hits` gives the hit of each place. -/
private def rowCells (left : Cell) : List (Option Hit) → List Cell
  | [] => []
  | hit :: rest =>
    let opened := (left.hit.map Hit.score).getD 0 - gapStartCost
    let extended := left.gapScore - gapExtensionCost
    let cell : Cell :=
      if extended < opened then ⟨opened, true, hit⟩ else ⟨extended, false, hit⟩
    cell :: rowCells cell rest

/-- The cells of one needle character from its first possible place on. -/
private structure Row where
  offset : Nat
  cells : Array Cell

private def emptyCell : Cell := ⟨0, false, none⟩

private def firstRow (needle : Char) (offset : Nat) (window : List Place) : Row :=
  ⟨offset, (rowCells emptyCell ((window.drop offset).map (firstHit needle))).toArray⟩

private def laterRow (needle : Char) (offset : Nat) (window : List Place) (above : Row) : Row :=
  let hits := ((window.drop offset).zip (above.cells.toList.drop (offset - 1 - above.offset))).map
    fun pair => laterHit needle pair.1 pair.2
  ⟨offset, (rowCells emptyCell hits).toArray⟩

/-- The rows of the needle characters behind the first one, last row first. -/
private def laterRows (window : List Place) (rows : List Row) : List (Char × Nat) → List Row
  | [] => rows
  | (needle, offset) :: rest =>
    match rows with
    | above :: _ => laterRows window (laterRow needle offset window above :: rows) rest
    | [] => []

/-- The first places at which the needle characters can stand, in order. -/
private def firstPlaces (index : Nat) : List Char → List Place → Option (List Nat)
  | [], _ => some []
  | _ :: _, [] => none
  | wanted :: later, place :: rest =>
    if place.folded = wanted then (firstPlaces (index + 1) later rest).map (index :: ·)
    else firstPlaces (index + 1) (wanted :: later) rest

/-- The place with the greatest score of a row; of several the last one. -/
private def bestPlace (index : Nat) (best : Nat × Nat) : List Cell → Nat × Nat
  | [] => best
  | cell :: rest =>
    let score := (cell.hit.map Hit.score).getD 0
    bestPlace (index + 1) (if best.1 ≤ score then (score, index) else best) rest

/-- Follow the best match back from a place: the matched places, first one first. -/
private def traceBack : Nat → Nat → Bool → List Row → List Nat → List Nat
  | 0, _, _, _, found | _, _, _, [], found => found
  | steps + 1, index, matched, row :: above, found =>
    match row.cells[index - row.offset]? with
    | none => found
    | some cell =>
      if matched then
        traceBack steps (index - 1) ((cell.hit.map Hit.consecutive).getD true) above
          (index :: found)
      else traceBack steps (index - 1) cell.gapOpens (row :: above) found

private def bestWithin (needle : List Char) (start : Nat) (window : List Place) : Option Match := do
  let offsets ← firstPlaces 0 needle window
  let (first, later) ← match needle.zip offsets with
    | first :: later => some (first, later)
    | [] => none
  match laterRows window [firstRow first.1 first.2 window] later with
  | [] => none
  | last :: above =>
    let (score, index) := bestPlace last.offset (0, last.offset) last.cells.toList
    let positions := traceBack (window.length + 1) index true (last :: above) []
    pure ⟨score, positions.map (start + ·)⟩

private def indexFrom? (needle : Char) (index : Nat) (haystack : List Place) : Option Nat :=
  ((haystack.drop index).findIdx? fun place => place.folded = needle).map (index + ·)

private def lastEnd? (needle : Char) (index : Nat) (haystack : List Place) : Option Nat :=
  ((haystack.drop index).reverse.findIdx? fun place => place.folded = needle).map
    (haystack.length - ·)

private def greedyEnd? (haystack : List Place) : Nat → List Char → Option Nat
  | index, [] => some index
  | index, wanted :: later => do greedyEnd? haystack ((← indexFrom? wanted index haystack) + 1) later

/-- The latest start of a match that ends at the end of the reversed places. -/
private def latestStart (start : Nat) : List Char → Nat → List Place → Nat
  | [], _, _ => start
  | _, _, [] => start
  | wanted :: earlier, index, place :: rest =>
    if place.folded = wanted then
      if earlier.isEmpty then index else latestStart start earlier (index - 1) rest
    else latestStart start (wanted :: earlier) (index - 1) rest

/-- A match found without comparing alternatives: the first possible end, and the latest start for
that end. -/
private def greedyMatch (needle : List Char) (start stop : Nat) (haystack : List Place) :
    Option Match :=
  let window := (haystack.take stop).drop start
  let latest := latestStart start needle.reverse (stop - 1) window.reverse
  scoreBetween needle latest ((haystack.take stop).drop latest)

/-- Whether comparing all alternatives would take too much room: the number of cells is bounded, and
so are the bytes for the window, with one byte for an ASCII character and four for any other. -/
private def tooLarge (ascii : Bool) (width count : Nat) : Bool :=
  let even (size : Nat) : Nat := size + size % 2
  let letters := even ((if ascii then 1 else 4) * width + width)
  let columns := width + 1 - count
  102400 < width * count || 65535 < width || 2048 < count ||
    124928 < even (letters + 2 * count) + 4 * columns + columns * count

/-- The best single character: the first of those with the greatest bonus. -/
private def bestSingle (needle : Char) (best : Option Match) (index : Nat) :
    List Place → Option Match
  | [] => best
  | place :: rest =>
    if place.folded = needle then
      let found : Match := ⟨2 * place.bonus + matchScore, [index]⟩
      let better := match best with
        | some earlier => if earlier.score < found.score then found else earlier
        | none => found
      if boundaryBonus ≤ place.bonus ∧ better = found then some found
      else bestSingle needle (some better) (index + 1) rest
    else bestSingle needle best (index + 1) rest

/-- The best single character outside ASCII: its bonus counts from the character that matched
before. -/
private def bestSingleWide (needle : Char) (before : CharClass) (best : Option Match) (index : Nat) :
    List Place → Option Match
  | [] => best
  | place :: rest =>
    if place.folded = needle then
      let bonus := positionBonus before place.kind
      let found : Match := ⟨2 * bonus + matchScore, [index]⟩
      let better := match best with
        | some earlier => if earlier.score < found.score then found else earlier
        | none => found
      if boundaryBonus ≤ bonus ∧ better = found then some found
      else bestSingleWide needle place.kind (some better) (index + 1) rest
    else bestSingleWide needle before best (index + 1) rest

private def matchAscii (needle : List Char) (first last : Char) (haystack : List Place) :
    Option Match :=
  if needle.length = 1 then bestSingle first none 0 haystack
  else do
    let start ← indexFrom? first 0 (haystack.take (haystack.length - needle.length + 1))
    let greedyStop ← greedyEnd? haystack (start + 1) needle.tail
    let stop := (lastEnd? last greedyStop haystack).getD greedyStop
    if stop - start = needle.length then
      scoreBetween needle start ((haystack.take greedyStop).drop start)
    else if tooLarge true (stop - start) needle.length then
      greedyMatch needle start greedyStop haystack
    else bestWithin needle start ((haystack.take stop).drop start)

private def matchWide (needle : List Char) (first last : Char) (haystack : List Place) :
    Option Match := do
  let start ← indexFrom? first 0 (haystack.take (haystack.length - needle.length + 1))
  if needle.length = 1 then
    let before := match start with
      | 0 => .delimiter
      | index + 1 => (haystack[index]?.map Place.kind).getD .delimiter
    bestSingleWide first before none start (haystack.drop start)
  else
    let stop ← lastEnd? last (start + 1) haystack
    let window := (haystack.take stop).drop start
    if window.length < needle.length then none
    else if window.length = needle.length then
      if window.map Place.folded = needle then scoreBetween needle start window else none
    else if tooLarge false window.length needle.length then
      let greedyStop ← greedyEnd? haystack (start + 1) needle.tail
      greedyMatch needle start greedyStop haystack
    else bestWithin needle start window

/-- Match a needle without surrounding blanks against a haystack. -/
def fuzzyMatch (query path : String) : Option Match :=
  let needleChars := (Text.trim query).toList
  let needle := foldNeedle needleChars
  let ascii := isAscii path.toList
  let heads := comparable path.toList
  let haystack := places (ignoresAccents needle) heads
  match needle.head?, needle.getLast? with
  | some first, some last =>
    if haystack.length < needle.length then none
    else if ascii && !isAscii needleChars then none
    else if haystack.length = needle.length then
      if haystack.map Place.folded = needle then scoreBetween needle 0 haystack else none
    else if ascii then matchAscii needle first last haystack
    else matchWide needle first last haystack
  | _, _ => some ⟨0, []⟩

end RouteExplorer.Search
