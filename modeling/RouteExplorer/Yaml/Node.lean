import RouteExplorer.Yaml.Lexer

namespace RouteExplorer.Yaml

/-- A value as it is written. -/
inductive Node where
  | scalar (style : ScalarStyle) (text : String)
  | sequence (items : List Node)
  | mapping (entries : List (Node × Node))
  /-- A mention of a node within itself. -/
  | cycle
deriving Repr

/-- A node that is left out. -/
def Node.empty : Node := .scalar .plain ""

/-- Where a node stands, which decides how it may be written. -/
inductive NodePlace where
  | inFlow
  | inBlock
  /-- Behind the mark of a key or a value, where the entries of a sequence need no indentation. -/
  | underKey
deriving DecidableEq, Repr

structure NodeState where
  tokens : List Token
  handles : List String
  /-- The names of anchors with the number of the anchor, last one first. -/
  anchors : List (String × Nat)
  /-- The complete nodes with the number of their anchor. -/
  nodes : List (Nat × Node)

abbrev NodeReader := StateT NodeState Option

namespace NodeReader

def peek : NodeReader (Option Token) := fun state => some (state.tokens.head?, state)

def skip : NodeReader Unit := fun state => some ((), { state with tokens := state.tokens.tail })

def nextIn (tokens : List Token) : NodeReader Bool := do
  return (← peek).any tokens.contains

def accept (token : Token) : NodeReader Bool := do
  if (← peek) == some token then
    skip
    return true
  return false

def expect (token : Token) : NodeReader Unit := do
  if !(← accept token) then failure

private def collectUpTo {α : Type} (step : NodeReader (Option α)) : Nat → NodeReader (List α)
  | 0 => pure []
  | steps + 1 => do
    match ← step with
    | some item => return item :: (← collectUpTo step steps)
    | none => return []

def collect {α : Type} (step : NodeReader (Option α)) : NodeReader (List α) := do
  let steps ← fun state => some (state.tokens.length, state)
  collectUpTo step (steps + 1)

def aliased (name : String) : NodeReader Node := fun state => do
  let number ← state.anchors.lookup name
  return ((state.nodes.lookup number).getD .cycle, state)

def beginAnchor (name : String) : NodeReader Nat := fun state =>
  let number := state.anchors.length
  some (number, { state with anchors := (name, number) :: state.anchors })

def completeAnchor (number : Nat) (node : Node) : NodeReader Unit := fun state =>
  some ((), { state with nodes := (number, node) :: state.nodes })

/-- A handle must be one of the two that every document has, or declared. -/
def checkHandle (handle : Option String) : NodeReader Unit := fun state =>
  if handle.all (fun name => ["!", "!!"].contains name || state.handles.contains name) then
    some ((), state)
  else none

private def anchorNumber : Option String → NodeReader (Option Nat)
  | some name => do return some (← beginAnchor name)
  | none => pure none

def anchor : NodeReader (Option String) := do
  match ← peek with
  | some (.anchor name) => skip; return some name
  | _ => return none

def tag : NodeReader (Option (Option String)) := do
  match ← peek with
  | some (.tag handle) => skip; return some handle
  | _ => return none

/-- Read the anchor and the tag of a node, in either order; whether there are any. -/
def properties : NodeReader (Bool × Option Nat) := do
  let before ← anchor
  let handle ← tag
  let name ← match before with
    | some name => pure (some name)
    | none => if handle.isSome then anchor else pure none
  checkHandle handle.join
  return (name.isSome || handle.isSome, ← anchorNumber name)

/-- Read a node unless one of some tokens is next, which shows that it is left out. -/
def orEmpty (ends : List Token) (node : NodeReader Node) : NodeReader Node := do
  if ← nextIn ends then pure .empty else node

def blockSequence (node : NodeReader Node) : NodeReader Node := do
  let items ← collect do
    if ← accept .blockEntry then some <$> orEmpty [.blockEntry, .blockEnd] node else pure none
  expect .blockEnd
  pure (.sequence items)

/-- The entries of a sequence without indentation of its own. -/
def entryRun (node : NodeReader Node) : NodeReader Node := do
  let items ← collect do
    if ← accept .blockEntry then
      some <$> orEmpty [.blockEntry, .key, .value, .blockEnd] node
    else pure none
  pure (.sequence items)

def blockMapping (node : NodeReader Node) : NodeReader Node := do
  let part (mark : Token) : NodeReader Node := do
    if ← accept mark then orEmpty [.key, .value, .blockEnd] node else pure .empty
  let entries ← collect do
    if ← nextIn [.key] then return some (← part .key, ← part .value)
    return none
  expect .blockEnd
  pure (.mapping entries)

/-- The items of a flow collection up to its end, with commas between them and perhaps one behind the
last. -/
def flowItems {α : Type} (close : Token) (item : NodeReader α) : NodeReader (List α) := do
  if ← accept close then return []
  let first ← item
  let others ← collect do
    if ← accept close then return none
    expect .flowEntry
    if ← nextIn [close] then
      skip
      return none
    return some (← item)
  return first :: others

def flowValue (close : Token) (node : NodeReader Node) : NodeReader Node := do
  if ← accept .value then orEmpty [.flowEntry, close] node else pure .empty

/-- An item of a flow sequence, which may be a mapping with one entry. The token that shows that its
key is left out is taken for the key. -/
def flowItem (node : NodeReader Node) : NodeReader Node := do
  if ← accept .key then
    let key ←
      if ← nextIn [.value, .flowEntry, .flowSequenceEnd] then do
        skip
        pure Node.empty
      else node
    return .mapping [(key, ← flowValue .flowSequenceEnd node)]
  node

def flowPair (node : NodeReader Node) : NodeReader (Node × Node) := do
  if ← accept .key then
    let key ← orEmpty [.value, .flowEntry, .flowMappingEnd] node
    return (key, ← flowValue .flowMappingEnd node)
  return (← node, .empty)

/-- Read a collection that begins with a token; nothing where it begins with none. -/
def collection? (node : NodePlace → NodeReader Node) (place : NodePlace) :
    Token → Option (NodeReader Node)
  | .flowSequenceStart => some (do
    skip
    return .sequence (← flowItems .flowSequenceEnd (flowItem (node .inFlow))))
  | .flowMappingStart => some (do
    skip
    return .mapping (← flowItems .flowMappingEnd (flowPair (node .inFlow))))
  | .blockSequenceStart =>
    if place = .inFlow then none else some (do skip; blockSequence (node .inBlock))
  | .blockMappingStart =>
    if place = .inFlow then none else some (do skip; blockMapping (node .underKey))
  | .blockEntry => if place = .underKey then some (entryRun (node .inBlock)) else none
  | _ => none

/-- Read a node. The tokens bound its depth. -/
def node : Nat → NodePlace → NodeReader Node
  | 0, _ => failure
  | depth + 1, place => do
    if let some (.alias name) ← peek then
      skip
      return ← aliased name
    let (hasProperties, number) ← properties
    let content ← match ← peek with
      | some (.scalar style text) => do
        skip
        pure (Node.scalar style text)
      | some token =>
        match collection? (node depth) place token with
        | some reader => reader
        | none => if hasProperties then pure Node.empty else failure
      | none => if hasProperties then pure Node.empty else failure
    if let some number := number then completeAnchor number content
    return content

/-- Read the directives of a document: one version at most, and handles that differ. -/
def directives (versioned : Bool) : Nat → NodeReader Bool
  | 0 => failure
  | steps + 1 => do
    match ← peek with
    | some .version =>
      if versioned then failure
      skip
      directives true steps
    | some (.handle name) =>
      skip
      fun state =>
        if state.handles.contains name then none
        else directives versioned steps { state with handles := name :: state.handles }
    | _ => return versioned

def opensDocument : Token → Bool
  | .version | .handle _ | .documentStart => true
  | _ => false

/-- Read the content of a document behind its mark, which may be left out. -/
def content (depth : Nat) : NodeReader Node := do
  match ← peek with
  | none | some .documentEnd => return .empty
  | some token => if opensDocument token then return .empty else node depth .inBlock

/-- Read the only document of a text; nothing where the text has none. -/
def document : NodeReader (Option Node) := do
  let size ← fun state => some (state.tokens.length, state)
  match ← peek with
  | none => return none
  | some token =>
    let root ←
      if opensDocument token then do
        let _ ← directives false (size + 1)
        expect .documentStart
        content (size + 1)
      else node (size + 1) .inBlock
    let _ ← collect do return if ← accept .documentEnd then some () else none
    if (← peek).isSome then failure
    return some root

end NodeReader

def Node.ofText? (text : String) : Option (Option Node) := do
  let tokens ← Token.ofText? text
  NodeReader.document.run' ⟨tokens, [], [], []⟩

end RouteExplorer.Yaml
