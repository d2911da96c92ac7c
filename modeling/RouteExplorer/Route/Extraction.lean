import RouteExplorer.Route.Descriptor
import RouteExplorer.Route.Template
import RouteExplorer.Script.Grammar
import RouteExplorer.Text.Split

namespace RouteExplorer.Extraction

open Script (Source Syntax PlacedNode)

/-- What a decorator calls, and the arguments if it is a call. -/
structure DecoratorCall where
  name : String
  arguments : List Syntax

def lastSegment (text : List Char) : String :=
  String.ofList (Text.trimChars ((Text.splitChars '.' text).getLastD []))

/-- The arguments of a call without the comments between them. -/
def callArguments (call : Syntax) : List Syntax :=
  match call.child? .arguments with
  | some arguments => arguments.children.filter fun argument => argument.kind != .comment
  | none => []

/-- What a decorator calls. Where a comment stands behind its mark or its expression is bracketed it
calls nothing. -/
def decoratorCall? (source : Source) (decorator : Syntax) : Option DecoratorCall := do
  let expression ← decorator.children.head?
  match expression.kind with
  | .call =>
    let function ← expression.child? .function
    some ⟨lastSegment (source.textOf function), callArguments expression⟩
  | .identifier | .member => some ⟨lastSegment (source.textOf expression), []⟩
  | _ => none

/-- The text between the quotes of a string. What is escaped in it stays so. -/
def unquote? : List Char → Option String
  | quote :: rest =>
    if quote = '"' ∨ quote = '\'' then
      if rest.getLast? = some quote then some (String.ofList rest.dropLast) else none
    else none
  | [] => none

/-- A key without double quotes and then without single quotes around it. -/
def trimQuotes (key : List Char) : List Char :=
  Text.dropAround (· == '\'') (Text.dropAround (· == '"') key)

def propertyText? (source : Source) (key : String) (property : Syntax) : Option String := do
  if property.kind ≠ .pair then none
  let keyNode ← property.child? .key
  if String.ofList (trimQuotes (source.textOf keyNode)) ≠ key then none
  let value ← property.child? .value
  if value.kind ≠ .string then none
  unquote? (source.textOf value)

/-- The path that the first argument of a decorator gives: a string, or the first property `path` of
an object that is a string. Anything else gives the empty path. -/
def DecoratorCall.path (source : Source) (call : DecoratorCall) : String :=
  match call.arguments with
  | [] => ""
  | first :: _ =>
    let given := match first.kind with
      | .string => unquote? (source.textOf first)
      | .object => first.children.findSome? (propertyText? source "path")
      | _ => none
    given.getD ""

def marker? (source : Source) (decorator : Syntax) : Option (Marker × DecoratorCall) := do
  let call ← decoratorCall? source decorator
  let marker ← Marker.ofName? call.name
  some (marker, call)

/-- The type of a parameter: what its node has as its type, or else its first type clause. -/
def declaredType? (source : Source) (parameter : Syntax) : Option String := do
  let clause ← (parameter.child? .type).or (parameter.childrenOfKind .typeClause).head?
  let text := Text.trimChars ((source.textOf clause).dropWhile (· == ':'))
  if text.isEmpty then none else some (String.ofList text)

/-- Where a parameter's value comes from: its last decorator that says so decides, and a parameter
without one comes from the query. -/
def parameterSource (source : Source) (parameter : Syntax) : ParameterSource :=
  (parameter.childrenOfKind .decorator).foldl (fun found decorator =>
    match marker? source decorator with
    | some (.source named, _) => named
    | _ => found) .query

/-- A parameter that is bound to a name. -/
def parameter? (source : Source) (parameter : Syntax) : Option RouteParameter := do
  let isOptional ← match parameter.kind with
    | .requiredParameter => some false
    | .optionalParameter => some true
    | _ => none
  let target ← parameter.child? .pattern
  if target.kind ≠ .identifier then none
  some {
    name := String.ofList (source.textOf target)
    source := parameterSource source parameter
    declaredType := declaredType? source parameter
    isOptional }

/-- The handler's name; a name that is no word is not told. -/
def handlerName (source : Source) (name : Syntax) : String :=
  match name.kind with
  | .memberName | .privateName => String.ofList (source.textOf name)
  | _ => "unknown"

def verb? (source : Source) (decorators : List Syntax) : Option (Verb × DecoratorCall) :=
  decorators.findSome? fun decorator =>
    match marker? source decorator with
    | some (.verb verb, call) => some (verb, call)
    | _ => none

def route? (source : Source) (owner : Controller) (decorators : List Syntax) (method : Syntax) :
    Option Route := do
  let (verb, call) ← verb? source decorators
  let name ← method.child? .name
  let place := source.position name.start
  let declaredPath := call.path source
  let fullPath := Template.combine owner.basePath declaredPath
  let parameters := (method.child? .parameters).elim [] fun list =>
    list.children.filterMap (parameter? source)
  some {
    httpMethod := verb.text, declaredPath, fullPath, sourceFile := owner.sourceFile,
    line := place.row + 1, column := place.column, ownerName := owner.name,
    handlerName := handlerName source name, parameters
    pathParameters := Template.parameters fullPath }

/-- The routes of some members. The decorators that wait belong to the next method, unless a member
other than a comment comes before it. -/
def routesFrom (source : Source) (owner : Controller) : List Syntax → List Syntax → List Route
  | _, [] => []
  | waiting, member :: rest =>
    match member.kind with
    | .decorator => routesFrom source owner (waiting ++ [member]) rest
    | .comment => routesFrom source owner waiting rest
    | .methodDefinition =>
      (route? source owner (waiting ++ member.childrenOfKind .decorator) member).toList ++
        routesFrom source owner [] rest
    | _ => routesFrom source owner [] rest

/-- A class that can be a controller: a declared one, or one that is exported as a value. -/
def isClass (place : PlacedNode) : Bool :=
  match place.node.kind with
  | .classDeclaration | .abstractClassDeclaration => true
  | .classExpression => place.parent.any fun parent => parent.kind == .exportStatement
  | _ => false

/-- The decorators of a class: those of the export around it and its own. -/
def classDecorators (place : PlacedNode) : List Syntax :=
  let around := (place.parent.filter fun parent => parent.kind == .exportStatement).toList
  around.flatMap (·.childrenOfKind .decorator) ++ place.node.childrenOfKind .decorator

def controllerCall? (source : Source) (decorators : List Syntax) : Option DecoratorCall :=
  decorators.findSome? fun decorator =>
    match marker? source decorator with
    | some (.controller, call) => some call
    | _ => none

/-- The name of a class; a class may have none. -/
def className (source : Source) (tree : Syntax) : String :=
  match tree.child? .name with
  | some name =>
    let text := source.textOf name
    if text.isEmpty then "UnknownController" else String.ofList text
  | none => "UnknownController"

def controllerOf? (source : Source) (file : FilePath) (place : PlacedNode) : Option Controller := do
  if !isClass place then none
  let call ← controllerCall? source (classDecorators place)
  let owner : Controller :=
    { name := className source place.node, basePath := call.path source, sourceFile := file, routes := [] }
  let members := (place.node.child? .body).elim [] Syntax.children
  some { owner with routes := routesFrom source owner [] members }

def controllerIn? (source : Source) (file : FilePath) (tree : Syntax) : Option Controller :=
  PlacedNode.findIn (controllerOf? source file) [⟨tree, none⟩]

end Extraction

/-- The controller of a file with a text. Files with the extension `tsx` may hold markup elements. -/
def Controller.ofText? (file : FilePath) (text : String) : Option Controller :=
  let source := Script.Source.ofText text (file.extension? == some "tsx")
  Extraction.controllerIn? source file source.tree

end RouteExplorer
