import RouteExplorer.Json.Reader

/-!
The lines in which requests come. A line is an object with an identifier, a method and parameters, or
an array of these; only the method must be there. What is wrong with the fields as a whole is told at
the end of the object or the array, as far as it can be read.
-/
namespace RouteExplorer.Rpc

open Json (Value Reader Fault Reason)

structure Envelope where
  id : Value
  method : String
  parameters : Value

structure EnvelopeFields where
  id : Option Value
  method : Option String
  parameters : Option Value

namespace Envelope

private def wantedShape : String := "struct RpcRequest"

/-- Values inside of a request nest one level less deeply. -/
private def innerValue : Reader Value := Reader.value (Json.nestingLimit - 1)

private def passObjectEnd : Reader Unit := do
  if (← Reader.peekToken) = some '\x7d' then Reader.skip

private def passListEnd : Reader Unit := do
  match ← Reader.peekToken with
  | some ']' => Reader.skip
  | some ',' =>
    Reader.skip
    discard Reader.peekToken
  | _ => pure ()

/-- Stop because of the fields as a whole. -/
private def unfitFields {α : Type} (passEnd : Reader Unit) (explanation : String) : Reader α := do
  passEnd
  Reader.stop (.unfit explanation)

private def duplicate {α : Type} (key : String) : Reader α :=
  unfitFields passObjectEnd s!"duplicate field \x60{key}\x60"

private def objectFields : Nat → Bool → EnvelopeFields → Reader EnvelopeFields
  | 0, _, found => pure found
  | steps + 1, isFirst, found => do
    match ← Reader.nextKey isFirst with
    | none => pure found
    | some "id" =>
      if found.id.isSome then duplicate "id"
      Reader.colon
      let id ← innerValue
      objectFields steps false { found with id := some id }
    | some "method" =>
      if found.method.isSome then duplicate "method"
      Reader.colon
      let method ← Reader.stringOnly
      objectFields steps false { found with method := some method }
    | some "params" =>
      if found.parameters.isSome then duplicate "params"
      Reader.colon
      let parameters ← innerValue
      objectFields steps false { found with parameters := some parameters }
    | some _ =>
      Reader.colon
      Reader.skipValue
      objectFields steps false found

private def ofObject : Reader Envelope := do
  let found ← objectFields ((← Reader.remaining) + 1) true ⟨none, none, none⟩
  match found.method with
  | none => unfitFields passObjectEnd "missing field \x60method\x60"
  | some method =>
    Reader.closeObject
    pure ⟨found.id.getD .null, method, found.parameters.getD .null⟩

private def ofList : Reader Envelope := do
  let id ← if ← Reader.nextItem true then innerValue else pure .null
  let isFirst := false
  if !(← Reader.nextItem isFirst) then
    unfitFields passListEnd s!"invalid length 1, expected {wantedShape} with 3 elements"
  let method ← Reader.stringOnly
  let parameters ← if ← Reader.nextItem isFirst then innerValue else pure .null
  Reader.closeList
  pure ⟨id, method, parameters⟩

private def whole : Reader Envelope := do
  match ← Reader.peekToken with
  | none => Reader.stopAhead .endInValue
  | some '\x7b' =>
    Reader.skip
    ofObject
  | some '[' =>
    Reader.skip
    ofList
  | some _ => Reader.stopUnfit wantedShape

def parse (line : String) : Except Fault Envelope := Reader.run whole line.toList

end Envelope

end RouteExplorer.Rpc
