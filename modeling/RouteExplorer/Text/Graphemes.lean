import RouteExplorer.Text.GraphemeBreak

namespace RouteExplorer.Text

/-- What the characters of the current cluster decide about the next one. -/
structure ClusterState where
  /-- The class of the cluster's last character. -/
  last : BreakClass
  /-- An odd number of regional indicators stands at the end. -/
  halfFlag : Bool
  /-- The cluster ends in a pictograph followed by extending marks only. -/
  pictograph : Bool
  /-- The cluster ends in a pictograph, extending marks and one joiner. -/
  joined : Bool
  /-- The cluster ends in a consonant followed by extending marks and linkers only. -/
  consonant : Bool
  /-- A linker stands among those marks. -/
  linked : Bool

namespace ClusterState

def start (character : Char) : ClusterState :=
  { last := breakClass character
    halfFlag := breakClass character == .regional
    pictograph := isPictograph character
    joined := false
    consonant := isConjunctConsonant character
    linked := false }

def extend (state : ClusterState) (character : Char) : ClusterState :=
  let kind := breakClass character
  let mark := kind == .extend || kind == .joiner
  { last := kind
    halfFlag := kind == .regional && !state.halfFlag
    pictograph := isPictograph character || (state.pictograph && kind == .extend)
    joined := state.pictograph && kind == .joiner
    consonant := isConjunctConsonant character ||
      (state.consonant && mark && character.toNat != 0x200C)
    linked := state.consonant && (state.linked || isConjunctLinker character) }

def breaksBefore (state : ClusterState) (character : Char) : Bool :=
  match state.last, breakClass character with
  | .carriageReturn, .lineFeed => false
  | .carriageReturn, _ | .lineFeed, _ | .control, _ => true
  | _, .carriageReturn | _, .lineFeed | _, .control => true
  | .leadingJamo, .leadingJamo | .leadingJamo, .vowelJamo => false
  | .leadingJamo, .openSyllable | .leadingJamo, .closedSyllable => false
  | .openSyllable, .vowelJamo | .openSyllable, .trailingJamo => false
  | .vowelJamo, .vowelJamo | .vowelJamo, .trailingJamo => false
  | .closedSyllable, .trailingJamo | .trailingJamo, .trailingJamo => false
  | _, .extend | _, .joiner | _, .spacing => false
  | .prepended, _ => false
  | _, .regional => !state.halfFlag
  | _, _ =>
    !(state.joined && isPictograph character) &&
      !(state.consonant && state.linked && isConjunctConsonant character)

end ClusterState

/-- The first characters of the clusters that follow an open cluster. -/
private def clusterHeadsAfter (state : ClusterState) : List Char → List Char
  | [] => []
  | character :: rest =>
    if state.breaksBefore character then
      character :: clusterHeadsAfter (ClusterState.start character) rest
    else clusterHeadsAfter (state.extend character) rest

/-- The first character of every user-perceived character, in order. -/
def clusterHeads : List Char → List Char
  | [] => []
  | character :: rest => character :: clusterHeadsAfter (ClusterState.start character) rest

end RouteExplorer.Text
