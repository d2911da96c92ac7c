import RouteExplorer.Proofs.Route.Location
import RouteExplorer.Proofs.Script.StringValue

namespace RouteExplorer

namespace Text

theorem trimChars_eq_self {mark : Char} (visible : isBlank mark = false) (inside : List Char) :
    trimChars (mark :: inside ++ [mark]) = mark :: inside ++ [mark] :=
  dropAround_eq_self (by simpa using visible) (by rw [List.getLast?_concat]; simpa using visible)

end Text

namespace Extraction

open Script (Source Syntax NodeKind PlacedNode Denotes IsQuote Parser units)

/-- A node is a literal of which the value is known. -/
structure IsLiteral (source : Source) (node : Syntax) (quote : Char) (body : List Char) (value : List Nat) : Prop where
  kind : node.kind = .string
  quoted : IsQuote quote
  text : source.slice node.start node.stop = quote :: body ++ [quote]
  denotes : Denotes quote body value

/-- The key `path` as a word or between quotes of either kind. -/
def SpellsPath (source : Source) (key : Syntax) : Prop :=
  source.textOf key ∈ ["path".toList, "\"path\"".toList, "'path'".toList]

/-- A property that is a string under the key `path`, be it between quotes within quotes. -/
def HasPath (source : Source) (property : Syntax) : Prop :=
  property.kind = .pair ∧
    (∃ key, property.child? .key = some key ∧ String.ofList (trimQuotes (source.textOf key)) = "path") ∧
    ∃ value, property.child? .value = some value ∧ value.kind = .string

/-- The node that gives a decorator its path: the first argument, or the value under the first key `path` of an
object that is the first argument. -/
inductive GivesPath (source : Source) (call : DecoratorCall) (literal : Syntax) : Prop
  | argument {others : List Syntax} (first : call.arguments = literal :: others)
  | property {object property key : Syntax} {others before behind : List Syntax}
      (first : call.arguments = object :: others) (isObject : object.kind = .object)
      (splits : object.children = before ++ property :: behind) (earlier : ∀ other ∈ before, ¬HasPath source other)
      (pair : property.kind = .pair) (keyed : property.child? .key = some key) (spelled : SpellsPath source key)
      (valued : property.child? .value = some literal)

variable {source : Source} {call : DecoratorCall} {literal : Syntax} {quote : Char} {body : List Char}
  {value : List Nat}

theorem IsLiteral.unquote? (isLiteral : IsLiteral source literal quote body value) :
    unquote? (source.textOf literal) = some (String.ofList body) := by
  have quoted : quote = '"' ∨ quote = '\'' := isLiteral.quoted
  have visible : Text.isBlank quote = false := by rcases quoted with rfl | rfl <;> decide
  rw [Source.textOf, isLiteral.text, Text.trimChars_eq_self visible, List.cons_append, Extraction.unquote?,
    if_pos quoted, if_pos List.getLast?_concat, List.dropLast_concat]

theorem trimQuotes_of_spellsPath {key : Syntax} (spelled : SpellsPath source key) :
    String.ofList (trimQuotes (source.textOf key)) = "path" := by
  simp only [SpellsPath, List.mem_cons, List.not_mem_nil, or_false] at spelled
  rcases spelled with text | text | text <;> rw [text] <;> decide

theorem propertyText?_eq_none {property : Syntax} (other : ¬HasPath source property) :
    propertyText? source "path" property = none := by
  refine Option.eq_none_iff_forall_ne_some.mpr fun text found => other ?_
  unfold propertyText? at found
  split at found
  · cases found
  · next pair =>
    obtain ⟨key, keyed, found⟩ := Option.bind_eq_some_iff.mp found
    split at found
    · cases found
    · next spelled =>
      obtain ⟨value, valued, found⟩ := Option.bind_eq_some_iff.mp found
      split at found
      · cases found
      · next isString =>
        exact ⟨not_not.mp pair, ⟨key, keyed, not_not.mp spelled⟩, value, valued, not_not.mp isString⟩

/-- What gives a decorator its path gives it what stands between the quotes. -/
theorem path_of_givesPath (gives : GivesPath source call literal)
    (isLiteral : IsLiteral source literal quote body value) : call.path source = String.ofList body := by
  cases gives with
  | argument first =>
    unfold DecoratorCall.path
    rw [first]
    simp only [isLiteral.kind, isLiteral.unquote?, Option.getD_some]
  | @property object property key others before behind first isObject splits earlier pair keyed spelled valued =>
    have none_before : before.findSome? (propertyText? source "path") = none :=
      List.findSome?_eq_none_iff.mpr fun other member => propertyText?_eq_none (earlier other member)
    have found : propertyText? source "path" property = some (String.ofList body) := by
      simp [propertyText?, pair, keyed, trimQuotes_of_spellsPath spelled, valued, isLiteral.kind, isLiteral.unquote?]
    unfold DecoratorCall.path
    rw [first]
    simp only [isObject, splits, List.findSome?_append, none_before, List.findSome?_cons, found, Option.none_or,
      Option.getD_some]

theorem path_eq_of_denotes {other : Source} {otherCall : DecoratorCall} {otherLiteral : Syntax} {otherQuote : Char}
    {otherBody : List Char} (gives : GivesPath source call literal)
    (isLiteral : IsLiteral source literal quote body value) (otherGives : GivesPath other otherCall otherLiteral)
    (otherIsLiteral : IsLiteral other otherLiteral otherQuote otherBody value) (unescaped : '\\' ∉ body)
    (otherUnescaped : '\\' ∉ otherBody) : call.path source = otherCall.path other := by
  have same : units body = units otherBody :=
    (isLiteral.denotes.units_eq_iff.mpr unescaped).trans (otherIsLiteral.denotes.units_eq_iff.mpr otherUnescaped).symm
  rw [path_of_givesPath gives isLiteral, path_of_givesPath otherGives otherIsLiteral, Script.units_injective same]

/-- A route takes the path of the first of its method's decorators that marks a verb. -/
def TakesPath (source : Source) (marked : MarkedMethod) (route : Route) : Prop :=
  ∃ verb call, verb? source marked.decorators = some (verb, call) ∧ route.declaredPath = call.path source

theorem takesPath_of_handles {marked : MarkedMethod} {route : Route} (handles : Handles source marked route) :
    TakesPath source marked route := by
  obtain ⟨before, decorator, behind, verb, call, splits, earlier, marker, -, path⟩ := handles.marker
  refine ⟨verb, call, List.findSome?_eq_some_iff.mpr ⟨before, decorator, behind, splits, ?_, ?_⟩, path⟩
  · rw [marker]
  · intro other member
    have unmarked := earlier other member
    unfold isVerb at unmarked
    rcases reads : marker? source other with _ | ⟨_ | _ | _, _⟩ <;> simp [reads] at unmarked ⊢

theorem basePath_of_controllerOf? {file : FilePath} {place : PlacedNode} {controller : Controller}
    (found : controllerOf? source file place = some controller) :
    ∃ call, controllerCall? source (classDecorators place) = some call ∧ controller.basePath = call.path source := by
  unfold controllerOf? at found
  split at found
  · cases found
  · obtain ⟨call, calls, shape⟩ := Option.bind_eq_some_iff.mp found
    obtain rfl := Option.some.inj shape
    exact ⟨call, calls, rfl⟩

/-- Declared paths are literals as they are written. A literal denotes one value, and before the next token it is read
as one string, from quote to quote. A decorator whose path a literal gives has what stands between the quotes for its path, which is the
string that the literal denotes exactly if there is no backslash in it; so of the literals without a backslash those
that denote one string give one path, whichever their quotes. The base path of a controller is the path of its class's
first decorator that marks a controller, and the declared path of each route is that of its method's first one that
marks a verb. -/
theorem declaredPaths_asWritten :
    (∀ (source : Source) (offset : Nat) (quote : Char) (body : List Char) (value : List Nat), IsQuote quote →
      Denotes quote body value → source.StandsAt (source.gapAt offset).stop (quote :: body ++ [quote]) →
      (∀ other, Denotes quote body other → other = value) ∧
        ∃ literal next, Parser.stringLiteral source offset = some (literal, next) ∧
          IsLiteral source literal quote body value ∧ literal.start = (source.gapAt offset).stop ∧
          literal.stop = next) ∧
    (∀ (source : Source) (call : DecoratorCall) (literal : Syntax) (quote : Char) (body : List Char)
      (value : List Nat), GivesPath source call literal → IsLiteral source literal quote body value →
      call.path source = String.ofList body ∧ (units (call.path source).toList = value ↔ '\\' ∉ body)) ∧
    (∀ (source other : Source) (call otherCall : DecoratorCall) (literal otherLiteral : Syntax)
      (quote otherQuote : Char) (body otherBody : List Char) (value : List Nat), GivesPath source call literal →
      IsLiteral source literal quote body value → GivesPath other otherCall otherLiteral →
      IsLiteral other otherLiteral otherQuote otherBody value → '\\' ∉ body → '\\' ∉ otherBody →
      call.path source = otherCall.path other) ∧
    ∀ (source : Source) (file : FilePath) (tree : Syntax) (controller : Controller),
      controllerIn? source file tree = some controller →
      ∃ place ∈ PlacedNode.preorder ⟨tree, none⟩, controllerOf? source file place = some controller ∧
        (∃ call, controllerCall? source (classDecorators place) = some call ∧
          controller.basePath = call.path source) ∧
        List.Forall₂ (TakesPath source) (handlersOf source place) controller.routes := by
  refine ⟨?_, ?_, ?_, ?_⟩
  · intro source offset quote body value isQuote denotes stands
    have reads := denotes.stringLiteral isQuote stands
    have length : body.length + 2 = (quote :: body ++ [quote]).length := by simp
    refine ⟨fun other also => also.unique denotes, _, _, reads, ⟨rfl, isQuote, ?_, denotes⟩, rfl, rfl⟩
    rw [length]
    exact stands.slice_eq
  · intro source call literal quote body value gives isLiteral
    have path := path_of_givesPath gives isLiteral
    refine ⟨path, ?_⟩
    rw [path, String.toList_ofList]
    exact isLiteral.denotes.units_eq_iff
  · intro source other call otherCall literal otherLiteral quote otherQuote body otherBody value
    exact path_eq_of_denotes
  · intro source file tree controller found
    rw [controllerIn?_eq] at found
    obtain ⟨place, present, selected⟩ := List.exists_of_findSome?_eq_some found
    obtain ⟨owner, routes⟩ := routes_of_controllerOf? selected
    refine ⟨place, present, selected, basePath_of_controllerOf? selected, ?_⟩
    rw [routes]
    exact (routesFrom_handles source owner (membersOf place)).imp fun _ _ => takesPath_of_handles

/-- One string in quotes of either kind, as an argument and as the value of a property. -/
def catsSource : Source := .ofText "@Controller(\"cats\")class A\x7b@Get(\x7b'path':'cats'\x7d)f()\x7b\x7d\x7d" false

def catsLiteral : Syntax := .leaf .string 12 18

def catsValue : Syntax := (Syntax.leaf .string 40 46).inRole .value

def catsObject : Syntax :=
  .node .object none 32 47 [.node .pair none 33 46 [(Syntax.leaf .string 33 39).inRole .key, catsValue]]

def catsCall : DecoratorCall := ⟨"Controller", [catsLiteral]⟩

def catsVerbCall : DecoratorCall := ⟨"Get", [catsObject]⟩

theorem cats_givesPath :
    GivesPath catsSource catsCall catsLiteral ∧ GivesPath catsSource catsVerbCall catsValue := by
  refine ⟨.argument rfl, .property rfl rfl (List.nil_append _).symm ?_ rfl rfl ?_ rfl⟩
  · simp
  · unfold SpellsPath
    decide +kernel

theorem cats_denotes (isQuote : IsQuote quote) : Denotes quote ['c', 'a', 't', 's'] (units ['c', 'a', 't', 's']) := by
  rcases isQuote with rfl | rfl <;>
    exact .plain (by decide) (.plain (by decide) (.plain (by decide) (.plain (by decide) .nil)))

theorem cats_isLiteral :
    IsLiteral catsSource catsLiteral '"' ['c', 'a', 't', 's'] (units ['c', 'a', 't', 's']) ∧
      IsLiteral catsSource catsValue '\'' ['c', 'a', 't', 's'] (units ['c', 'a', 't', 's']) :=
  ⟨⟨rfl, .inl rfl, by decide +kernel, cats_denotes (.inl rfl)⟩,
    ⟨rfl, .inr rfl, by decide +kernel, cats_denotes (.inr rfl)⟩⟩

theorem cats_asWritten :
    (∃ literal next, Parser.stringLiteral catsSource 12 = some (literal, next) ∧
      IsLiteral catsSource literal '"' ['c', 'a', 't', 's'] (units ['c', 'a', 't', 's']) ∧
      literal.start = 12 ∧ literal.stop = next) ∧
      units (catsCall.path catsSource).toList = units ['c', 'a', 't', 's'] ∧
      catsCall.path catsSource = catsVerbCall.path catsSource ∧
      ∃ controller, controllerIn? catsSource ⟨"a.ts"⟩ catsSource.tree = some controller ∧
        (controller.basePath, controller.routes.map Route.declaredPath) = ("cats", ["cats"]) ∧
        ∃ place ∈ PlacedNode.preorder ⟨catsSource.tree, none⟩,
          controllerOf? catsSource ⟨"a.ts"⟩ place = some controller ∧
          (∃ call, controllerCall? catsSource (classDecorators place) = some call ∧
            controller.basePath = call.path catsSource) ∧
          List.Forall₂ (TakesPath catsSource) (handlersOf catsSource place) controller.routes := by
  obtain ⟨literals, paths, same, controllers⟩ := declaredPaths_asWritten
  obtain ⟨gives, verbGives⟩ := cats_givesPath
  obtain ⟨isLiteral, verbIsLiteral⟩ := cats_isLiteral
  have start : (catsSource.gapAt 12).stop = 12 := by decide +kernel
  have stands : catsSource.StandsAt 12 ('"' :: ['c', 'a', 't', 's'] ++ ['"']) := by
    unfold Source.StandsAt
    decide +kernel
  obtain ⟨_, reads⟩ := literals catsSource 12 '"' _ _ (.inl rfl) isLiteral.denotes (start ▸ stands)
  rw [start] at reads
  have found : (controllerIn? catsSource ⟨"a.ts"⟩ catsSource.tree).map (fun controller =>
      (controller.basePath, controller.routes.map Route.declaredPath)) = some ("cats", ["cats"]) := by decide +kernel
  obtain ⟨controller, found, shape⟩ := Option.map_eq_some_iff.mp found
  refine ⟨reads, (paths _ _ _ _ _ _ gives isLiteral).2.mpr (by decide), ?_, controller, found, shape, ?_⟩
  · exact same _ _ _ _ _ _ _ _ _ _ _ gives isLiteral verbGives verbIsLiteral (by decide) (by decide)
  · exact controllers _ _ _ _ found

def plainCafe : Source := .ofText "@Controller('caf\u00e9')\nclass A \x7b\x7d\n" false

def escapedCafe : Source := .ofText "@Controller('caf\\u00e9')\nclass A \x7b\x7d\n" false

theorem escapedCafe_undecoded :
    let text := ['c', 'a', 'f', '\u00e9']
    let escaped := ['c', 'a', 'f', '\\', 'u', '0', '0', 'e', '9']
    IsLiteral plainCafe (.leaf .string 12 18) '\'' text (units text) ∧
      IsLiteral escapedCafe (.leaf .string 12 23) '\'' escaped (units text) ∧
      (controllerIn? plainCafe ⟨"a.ts"⟩ plainCafe.tree).map Controller.basePath = some (String.ofList text) ∧
      (controllerIn? escapedCafe ⟨"a.ts"⟩ escapedCafe.tree).map Controller.basePath = some (String.ofList escaped) ∧
      units escaped ≠ units text := by
  intro text escaped
  have plain : Denotes '\'' text (units text) :=
    .plain (by decide) (.plain (by decide) (.plain (by decide) (.plain (by decide) .nil)))
  have code :
      Denotes '\'' ('\\' :: ('u' :: ['0', '0', 'e', '9'] ++ [])) ([Text.readHex ['0', '0', 'e', '9']] ++ []) :=
    .escaped (.fourDigits rfl rfl) (by intro next absent; cases absent) .nil
  have whole : Denotes '\'' escaped (units text) :=
    .plain (by decide) (.plain (by decide) (.plain (by decide) code))
  refine ⟨⟨rfl, .inr rfl, by decide +kernel, plain⟩, ⟨rfl, .inr rfl, by decide +kernel, whole⟩, ?_, ?_, by decide⟩
  · decide +kernel
  · decide +kernel

end Extraction

end RouteExplorer
