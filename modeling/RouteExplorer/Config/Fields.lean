import RouteExplorer.Config
import RouteExplorer.Json.Decode
import RouteExplorer.Json.Reader
import RouteExplorer.Number.Unsigned
import RouteExplorer.Yaml.Node

namespace RouteExplorer

structure ConfigFields where
  filePatterns : Option (List String)
  excludePatterns : Option (List String)
  watchDebounceMs : Option Nat

namespace ConfigFields

def none : ConfigFields := ⟨.none, .none, .none⟩

/-- The configuration with built-in values for what is left out. -/
def config (fields : ConfigFields) : Config :=
  { filePatterns := fields.filePatterns.getD Config.default.filePatterns
    excludePatterns := fields.excludePatterns.getD Config.default.excludePatterns
    watchDebounceMs := fields.watchDebounceMs.getD Config.default.watchDebounceMs }

end ConfigFields

namespace ConfigFields

open Json (Reader)

private def patternItems : Nat → List String → Reader (List String)
  | 0, read => pure read.reverse
  | steps + 1, read => do
    if ← Reader.nextItem read.isEmpty then
      patternItems steps ((← Reader.stringOnly) :: read)
    else pure read.reverse

private def readPatterns : Reader (List String) := do
  if (← Reader.peekToken) != some '[' then Reader.stopUnfit "a sequence"
  Reader.skip
  let patterns ← patternItems ((← Reader.remaining) + 1) []
  Reader.closeList
  pure patterns

private def readMilliseconds : Reader Nat := do
  match (← Reader.value 1).natural? with
  | some value => pure value
  | _ => Reader.stop (.unfit "expected u64")

private def refuseTwice {α : Type} (given : Option α) : Reader Unit := do
  if given.isSome then Reader.stop (.unfit "duplicate field")

private def objectFields : Nat → Bool → ConfigFields → Reader ConfigFields
  | 0, _, fields => pure fields
  | steps + 1, isFirst, fields => do
    match ← Reader.nextKey isFirst with
    | .none => pure fields
    | some key =>
      Reader.colon
      let next ← match key with
        | "filePatterns" => do
          refuseTwice fields.filePatterns
          pure { fields with filePatterns := some (← readPatterns) }
        | "excludePatterns" => do
          refuseTwice fields.excludePatterns
          pure { fields with excludePatterns := some (← readPatterns) }
        | "watchDebounceMs" => do
          refuseTwice fields.watchDebounceMs
          pure { fields with watchDebounceMs := some (← readMilliseconds) }
        | _ => do
          Reader.skipValue
          pure fields
      objectFields steps false next

private def optionalItem {α : Type} (isFirst : Bool) (item : Reader α) : Reader (Option α) := do
  if ← Reader.nextItem isFirst then some <$> item else pure .none

/-- Read fields that are listed in their declared order. -/
private def listFields : Reader ConfigFields := do
  let filePatterns ← optionalItem true readPatterns
  if filePatterns.isNone then return .none
  let excludePatterns ← optionalItem false readPatterns
  if excludePatterns.isNone then return { ConfigFields.none with filePatterns }
  return ⟨filePatterns, excludePatterns, ← optionalItem false readMilliseconds⟩

private def jsonFields : Reader ConfigFields := do
  match ← Reader.peekToken with
  | some '\x7b' =>
    Reader.skip
    let fields ← objectFields ((← Reader.remaining) + 1) true .none
    Reader.closeObject
    pure fields
  | some '[' =>
    Reader.skip
    let fields ← listFields
    Reader.closeList
    pure fields
  | _ => Reader.stopUnfit "struct Config"

end ConfigFields

/-- The configuration in a JSON text: an object, or a list of the first fields in their order. -/
def Config.ofJson? (text : String) : Option Config :=
  match Json.Reader.run ConfigFields.jsonFields text.toList with
  | .ok fields => some fields.config
  | .error _ => none

namespace ConfigFields

open Yaml (Node)

private def scalarText? : Node → Option String
  | .scalar _ text => some text
  | _ => .none

/-- A list of patterns, which are texts however they look. Nothing at all is the empty list. -/
def patterns? : Node → Option (List String)
  | .sequence items => items.mapM scalarText?
  | .scalar .plain "" => some []
  | _ => .none

def milliseconds? : Node → Option Nat
  | .scalar .plain text => Number.Unsigned.ofLiteral? text
  | _ => .none

def entry? (fields : ConfigFields) (key value : Node) : Option ConfigFields := do
  match ← scalarText? key with
  | "filePatterns" =>
    if fields.filePatterns.isSome then failure
    return { fields with filePatterns := ← (patterns? value).map some }
  | "excludePatterns" =>
    if fields.excludePatterns.isSome then failure
    return { fields with excludePatterns := ← (patterns? value).map some }
  | "watchDebounceMs" =>
    if fields.watchDebounceMs.isSome then failure
    return { fields with watchDebounceMs := ← (milliseconds? value).map some }
  | _ => return fields

def ofNode? : Node → Option ConfigFields
  | .mapping entries => entries.foldlM (fun fields (key, value) => fields.entry? key value) .none
  | .scalar .plain "" => some .none
  | _ => Option.none

end ConfigFields

def Config.ofYaml? (text : String) : Option Config := do
  match ← Yaml.Node.ofText? text with
  | some node => return (← ConfigFields.ofNode? node).config
  | none => return .default

end RouteExplorer
