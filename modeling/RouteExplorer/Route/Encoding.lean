import RouteExplorer.Json.Decode
import RouteExplorer.Route.Descriptor

namespace RouteExplorer

open Json (Value Slots)

namespace RouteParameter

/-- A parameter without a declared type is written without that field. -/
def encode (parameter : RouteParameter) : Value :=
  let declared := match parameter.declaredType with
    | some text => [("declaredType", Value.string text)]
    | none => []
  .object ([("name", .string parameter.name), ("kind", .string parameter.source.text)] ++ declared ++
    [("optional", .bool parameter.isOptional)])

def decode? (value : Value) : Option RouteParameter := do
  let slots ← Slots.ofValue? [["name"], ["kind"], ["declaredType"], ["optional"]] value
  let name ← slots.required 0 Value.string?
  let source ← slots.required 1 fun kind => kind.caseName?.bind ParameterSource.ofText?
  let declaredType ← slots.optional 2 Value.string?
  let isOptional ← slots.required 3 Value.bool?
  pure { name, source, declaredType, isOptional }

end RouteParameter

namespace Route

def encode (route : Route) : Value :=
  .object [
    ("httpMethod", .string route.httpMethod),
    ("declaredPath", .string route.declaredPath),
    ("fullPath", .string route.fullPath),
    ("sourceFile", .string route.sourceFile.text),
    ("line", .natural route.line),
    ("column", .natural route.column),
    ("ownerName", .string route.ownerName),
    ("handlerName", .string route.handlerName),
    ("parameters", .array (route.parameters.map RouteParameter.encode)),
    ("pathParameters", .strings route.pathParameters)]

def fieldNames : List (List String) :=
  [["httpMethod"], ["declaredPath"], ["fullPath"], ["sourceFile"], ["line"], ["column"],
    ["ownerName"], ["handlerName"], ["parameters"], ["pathParameters"]]

def decode? (value : Value) : Option Route := do
  let slots ← Slots.ofValue? fieldNames value
  let httpMethod ← slots.required 0 Value.string?
  let declaredPath ← slots.required 1 Value.string?
  let fullPath ← slots.required 2 Value.string?
  let sourceFile ← slots.required 3 fun path => path.string?.map FilePath.mk
  let line ← slots.required 4 Value.natural?
  let column ← slots.required 5 Value.natural?
  let ownerName ← slots.required 6 Value.string?
  let handlerName ← slots.required 7 Value.string?
  let parameters ← slots.required 8 (Value.list? RouteParameter.decode?)
  let pathParameters ← slots.required 9 Value.strings?
  pure { httpMethod, declaredPath, fullPath, sourceFile, line, column, ownerName, handlerName,
         parameters, pathParameters }

end Route

namespace Controller

def encode (controller : Controller) : Value :=
  .object [
    ("name", .string controller.name),
    ("basePath", .string controller.basePath),
    ("sourceFile", .string controller.sourceFile.text),
    ("routes", .array (controller.routes.map Route.encode))]

def decode? (value : Value) : Option Controller := do
  let slots ← Slots.ofValue? [["name"], ["basePath"], ["sourceFile"], ["routes"]] value
  let name ← slots.required 0 Value.string?
  let basePath ← slots.required 1 Value.string?
  let sourceFile ← slots.required 2 fun path => path.string?.map FilePath.mk
  let routes ← slots.required 3 (Value.list? Route.decode?)
  pure { name, basePath, sourceFile, routes }

end Controller

def Snapshot.encode (snapshot : Snapshot) : Value :=
  .object [
    ("controllers", .array (snapshot.controllers.map Controller.encode)),
    ("routes", .array (snapshot.routes.map Route.encode))]

end RouteExplorer
