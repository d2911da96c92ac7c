import RouteExplorer.Proofs.Route.Attribution
import RouteExplorer.Proofs.Route.FirstController
import RouteExplorer.Proofs.Script.Lines

/-!
Where routes are. Their order is that of their places, and the text at the place of a route starts with the token
that names the handler. With the handler's name it starts as well, unless trimming takes away the front of the
token: of the characters of words, the next-line character alone counts as a blank there.
-/
namespace RouteExplorer

open Script (Source Syntax NodeKind PlacedNode)

namespace Text

/-- A trimmed word stands where the word does unless there are blanks in front of something. -/
theorem trimChars_prefix_iff (word rest : List Char) : trimChars word <+: word ++ rest ↔
    trimChars word = [] ∨ ∀ first, word.head? = some first → isBlank first = false := by
  have inside : trimChars word <+: word.dropWhile isBlank := List.rdropWhile_prefix ..
  constructor
  · intro stands
    refine or_iff_not_imp_left.mpr fun filled first begins => ?_
    obtain ⟨head, others, trimmed⟩ := List.exists_cons_of_ne_nil filled
    obtain ⟨tail, rfl⟩ := List.head?_eq_some_iff.mp begins
    rw [trimmed] at stands inside
    -- what is left begins like the word, and never with a blank
    obtain ⟨rfl, -⟩ := List.cons_prefix_cons.mp stands
    obtain ⟨behind, splits⟩ := inside
    have visible := List.head?_dropWhile_not isBlank (head :: tail)
    rw [← splits] at visible
    exact visible
  · rintro (empty | visible)
    · rw [empty]
      exact List.nil_prefix
    · have whole : word.dropWhile isBlank = word := by
        cases word with
        | nil => rfl
        | cons head tail => exact List.dropWhile_cons_of_neg (by simp [visible head rfl])
      rw [whole] at inside
      exact inside.trans (List.prefix_append word rest)

end Text

namespace Script

/-- A node that lies in the text as a parser lays it: its children are inside of it, one behind the other; one that
names it is not empty, and a word holds nothing that may stand between tokens. -/
@[mk_iff]
structure Source.LaysOut (source : Source) (node : Syntax) : Prop where
  inText : node.stop ≤ source.characters.size
  inside : ∀ child ∈ node.children, node.start ≤ child.start ∧ child.stop ≤ node.stop
  inOrder : node.children.Pairwise fun one other => one.stop ≤ other.start
  named : ∀ child ∈ node.children, child.role = some .name → child.start < child.stop
  word : node.kind = .memberName ∨ node.kind = .privateName →
    (source.slice node.start node.stop).any Source.isSpace = false

instance (source : Source) (node : Syntax) : Decidable (source.LaysOut node) :=
  decidable_of_iff' _ (Source.laysOut_iff source node)

def Source.LaysOutAll (source : Source) (tree : Syntax) : Prop :=
  ∀ place ∈ PlacedNode.preorder ⟨tree, none⟩, source.LaysOut place.node

instance (source : Source) (tree : Syntax) : Decidable (source.LaysOutAll tree) :=
  inferInstanceAs (Decidable (∀ place ∈ PlacedNode.preorder ⟨tree, none⟩, source.LaysOut place.node))

theorem Source.LaysOut.not_isSpace {source : Source} {name : Syntax} (laid : source.LaysOut name)
    (word : name.kind = .memberName ∨ name.kind = .privateName) {character : Char}
    (member : character ∈ source.slice name.start name.stop) : Source.isSpace character = false := by
  simpa using List.any_eq_false.mp (laid.word word) character member

/-- Of the characters of words the next-line character alone is a blank. -/
theorem Source.isBlank_iff_of_not_isSpace {character : Char} (stands : Source.isSpace character = false) :
    Text.isBlank character = true ↔ character = '\u0085' := by
  constructor
  · intro blank
    simp only [Source.isSpace, blank, Bool.true_and, Bool.or_eq_false_iff] at stands
    simpa using stands.1.1.1
  · rintro rfl
    decide

end Script

/-- Earlier in the file: on an earlier line, or on the same one at an earlier byte. -/
def Route.Before (one other : Route) : Prop :=
  one.line < other.line ∨ one.line = other.line ∧ one.column < other.column

namespace Extraction

variable {source : Source} {file : FilePath}

def membersOf (place : PlacedNode) : List Syntax := (place.node.child? .body).elim [] Syntax.children

def handlersOf (source : Source) (place : PlacedNode) : List MarkedMethod :=
  (methodsAmong (membersOf place)).filter (·.isHandler source)

def StartsWith (source : Source) (route : Route) (word : List Char) : Prop :=
  ∃ rest, source.textAt? route.line route.column = some rest ∧ word <+: rest

/-- A name that trimming shortens in front: it begins with the next-line character and goes on with a visible one
somewhere. -/
def LosesFront (source : Source) (name : Syntax) : Prop :=
  (source.slice name.start name.stop).head? = some '\u0085' ∧ source.textOf name ≠ []

/-- How the place of a route tells the handler: a word that names the method stands there, and so does the handler's
name, unless it lost its front. -/
def Located (source : Source) (marked : MarkedMethod) (route : Route) : Prop :=
  ∀ name, marked.method.child? .name = some name → name.kind = .memberName ∨ name.kind = .privateName →
    StartsWith source route (source.slice name.start name.stop) ∧
      (StartsWith source route route.handlerName.toList ↔ ¬LosesFront source name)

theorem methods_sublist (front members : List Syntax) :
    ((methodsBehind front members).map (·.method)).Sublist members := by
  induction members generalizing front with
  | nil => exact List.nil_sublist _
  | cons member rest ih =>
    unfold methodsBehind
    split
    · exact (ih _).cons_cons member
    · exact (ih _).cons member

theorem mem_of_mem_methodsAmong {members : List Syntax} {marked : MarkedMethod}
    (member : marked ∈ methodsAmong members) : marked.method ∈ members :=
  (methods_sublist [] members).subset (List.mem_map_of_mem member)

theorem name_inside {method name : Syntax} (laid : source.LaysOut method) (named : method.child? .name = some name) :
    method.start ≤ name.start ∧ name.start < name.stop ∧ name.stop ≤ method.stop := by
  have member := List.mem_of_find?_eq_some named
  have role : name.role = some .name := by simpa using List.find?_some named
  obtain ⟨starts, stops⟩ := laid.inside name member
  exact ⟨starts, laid.named name member role, stops⟩

/-- Routes come in the order of their methods. -/
theorem before_of_handles {one other : MarkedMethod} {first second : Route}
    (first_laid : source.LaysOut one.method) (second_laid : source.LaysOut other.method)
    (apart : one.method.stop ≤ other.method.start) (first_handles : Handles source one first)
    (second_handles : Handles source other second) : first.Before second := by
  obtain ⟨name, named, -, line, column⟩ := first_handles.name
  obtain ⟨later, later_named, -, later_line, later_column⟩ := second_handles.name
  obtain ⟨-, holds, stops⟩ := name_inside first_laid named
  obtain ⟨starts, later_holds, later_stops⟩ := name_inside second_laid later_named
  have inText := second_laid.inText
  have places : (source.position name.start).Before (source.position later.start) :=
    Source.position_before (by omega) (by omega)
  unfold Script.Position.Before at places
  unfold Route.Before
  omega

theorem routesFrom_pairwise {owner : Controller} {members : List Syntax}
    (laid : ∀ member ∈ members, source.LaysOut member)
    (inOrder : members.Pairwise fun one other => one.stop ≤ other.start) :
    (routesFrom source owner [] members).Pairwise Route.Before := by
  have methods := List.pairwise_map.mp (inOrder.sublist (methods_sublist [] members))
  rw [routesFrom_eq, List.pairwise_filterMap]
  refine methods.imp_of_mem fun {one other} one_member other_member apart first first_found second second_found => ?_
  exact before_of_handles (laid _ (mem_of_mem_methodsAmong one_member))
    (laid _ (mem_of_mem_methodsAmong other_member)) apart (handles_of_route? first_found)
    (handles_of_route? second_found)

theorem textOf_prefix_iff {name : Syntax} (laid : source.LaysOut name)
    (word : name.kind = .memberName ∨ name.kind = .privateName) (rest : List Char) :
    source.textOf name <+: source.slice name.start name.stop ++ rest ↔ ¬LosesFront source name := by
  have visible_iff : (∀ first, (source.slice name.start name.stop).head? = some first → Text.isBlank first = false) ↔
      (source.slice name.start name.stop).head? ≠ some '\u0085' := by
    constructor
    · intro visible begins
      exact absurd (visible _ begins) (by decide)
    · intro other first begins
      have stands := laid.not_isSpace word (List.mem_of_mem_head? begins)
      rw [Bool.eq_false_iff, ne_eq, Source.isBlank_iff_of_not_isSpace stands]
      rintro rfl
      exact other begins
  rw [Source.textOf, Text.trimChars_prefix_iff, visible_iff, LosesFront, Source.textOf]
  tauto

theorem located_of_handles {marked : MarkedMethod} {route : Route}
    (laid : ∀ name ∈ marked.method.children, source.LaysOut name) (handles : Handles source marked route) :
    Located source marked route := by
  obtain ⟨name, named, handler, line, column⟩ := handles.name
  intro other same word
  obtain rfl := Option.some.inj (named.symm.trans same)
  have laid := laid name (List.mem_of_find?_eq_some named)
  have oneLine : '\n' ∉ source.slice name.start name.stop := by
    intro member
    exact absurd (laid.not_isSpace word member) (by decide)
  obtain ⟨rest, found⟩ := Source.exists_textAt? oneLine
  rw [← line, ← column] at found
  have called : route.handlerName.toList = source.textOf name := by
    rw [handler, Extraction.handlerName]
    rcases word with kind | kind <;> rw [kind] <;> exact String.toList_ofList
  refine ⟨⟨_, found, List.prefix_append ..⟩, ?_⟩
  rw [called, ← textOf_prefix_iff laid word rest]
  constructor
  · rintro ⟨other, same, stands⟩
    obtain rfl := Option.some.inj (found.symm.trans same)
    exact stands
  · exact fun stands => ⟨_, found, stands⟩

theorem routes_of_controllerOf? {place : PlacedNode} {controller : Controller}
    (found : controllerOf? source file place = some controller) :
    ∃ owner, controller.routes = routesFrom source owner [] (membersOf place) := by
  unfold controllerOf? at found
  split at found
  · cases found
  · obtain ⟨call, _, shape⟩ := Option.bind_eq_some_iff.mp found
    obtain rfl := Option.some.inj shape
    exact ⟨_, rfl⟩

theorem laysOut_membersOf {tree : Syntax} (laid : source.LaysOutAll tree) {place : PlacedNode}
    (present : place ∈ PlacedNode.preorder ⟨tree, none⟩) :
    (∀ member ∈ membersOf place, source.LaysOut member ∧ ∀ child ∈ member.children, source.LaysOut child) ∧
      (membersOf place).Pairwise fun one other => one.stop ≤ other.start := by
  unfold membersOf
  cases found : place.node.child? .body with
  | none => exact ⟨by simp, .nil⟩
  | some body =>
    have inside := PlacedNode.child_mem_preorder present (List.mem_of_find?_eq_some found)
    refine ⟨fun member below => ?_, (laid _ inside).inOrder⟩
    have deeper := PlacedNode.child_mem_preorder inside below
    exact ⟨laid _ deeper, fun child within => laid _ (PlacedNode.child_mem_preorder deeper within)⟩

/-- In a tree that lies in its text as a parser lays it, the routes of the controller come in the order of lines and
columns. Each comes from a method of the class; where a word names the method, the text at the place of the route
starts with this word, and with the handler's name exactly if trimming took nothing away in front. -/
theorem routes_located {tree : Syntax} {controller : Controller} (laid : source.LaysOutAll tree)
    (found : controllerIn? source file tree = some controller) :
    controller.routes.Pairwise Route.Before ∧
      ∃ place ∈ PlacedNode.preorder ⟨tree, none⟩, controllerOf? source file place = some controller ∧
        List.Forall₂ (Located source) (handlersOf source place) controller.routes := by
  rw [controllerIn?_eq] at found
  obtain ⟨place, present, selected⟩ := List.exists_of_findSome?_eq_some found
  obtain ⟨owner, routes⟩ := routes_of_controllerOf? selected
  obtain ⟨members, inOrder⟩ := laysOut_membersOf laid present
  rw [routes]
  refine ⟨routesFrom_pairwise (fun member below => (members member below).1) inOrder, place, present, selected, ?_⟩
  have handles := routesFrom_handles source owner (membersOf place)
  have among : ∀ marked ∈ handlersOf source place, ∀ name ∈ marked.method.children, source.LaysOut name :=
    fun marked member => (members _ (mem_of_mem_methodsAmong (List.mem_of_mem_filter member))).2
  refine ((List.forall₂_and_left _ _).mpr ⟨among, handles⟩).imp ?_
  rintro marked route ⟨names, handled⟩
  exact located_of_handles names handled

/-- Two handlers with letters of two bytes around them, and one whose name begins with the next-line character. -/
def gullSource : Source :=
  .ofText "@Controller()\r\nclass É\x7b/*ö*/@Get()list()\x7b\x7d@Put()#µ()\x7b\x7d\x7d" false

theorem gull_located :
    gullSource.LaysOutAll gullSource.tree ∧
      ∃ controller, controllerIn? gullSource ⟨"gull.ts"⟩ gullSource.tree = some controller ∧
        controller.routes.map (fun route => (route.handlerName, route.line, route.column)) =
          [("list", 2, 21), ("#µ", 2, 35)] ∧
        controller.routes.Pairwise Route.Before ∧
        ∃ place ∈ PlacedNode.preorder ⟨gullSource.tree, none⟩,
          controllerOf? gullSource ⟨"gull.ts"⟩ place = some controller ∧
            List.Forall₂ (Located gullSource) (handlersOf gullSource place) controller.routes := by
  have laid : gullSource.LaysOutAll gullSource.tree := by decide +kernel
  have reads : (controllerIn? gullSource ⟨"gull.ts"⟩ gullSource.tree).map (fun controller =>
      controller.routes.map fun route => (route.handlerName, route.line, route.column)) =
        some [("list", 2, 21), ("#µ", 2, 35)] := by decide +kernel
  obtain ⟨controller, found, routes⟩ := Option.map_eq_some_iff.mp reads
  exact ⟨laid, controller, found, routes, routes_located laid found⟩

def nextLineText : String := "@Controller()\nclass A \x7b\n  @Get('x')\n  \u0085list() \x7b\x7d\n\x7d\n"

theorem nextLine_missed :
    (Source.ofText nextLineText false).LaysOutAll (Source.ofText nextLineText false).tree ∧
      ∃ controller, Controller.ofText? ⟨"a.ts"⟩ nextLineText = some controller ∧
        ∃ route ∈ controller.routes, route.handlerName = "list" ∧
          ¬StartsWith (Source.ofText nextLineText false) route route.handlerName.toList := by
  have reads : (Controller.ofText? ⟨"a.ts"⟩ nextLineText).map (fun controller =>
      controller.routes.map fun route => (route.handlerName, route.line, route.column)) =
        some [("list", 4, 2)] := by decide +kernel
  have text : (Source.ofText nextLineText false).textAt? 4 2 = some "\u0085list() \x7b\x7d".toList := by
    decide +kernel
  obtain ⟨controller, found, routes⟩ := Option.map_eq_some_iff.mp reads
  obtain ⟨route, only, values⟩ := List.map_eq_singleton_iff.mp routes
  obtain ⟨handler, place⟩ := Prod.mk.inj values
  obtain ⟨line, column⟩ := Prod.mk.inj place
  refine ⟨by decide +kernel, controller, found, route, by simp [only], handler, ?_⟩
  rintro ⟨rest, there, starts⟩
  rw [line, column, text] at there
  obtain rfl := Option.some.inj there
  rw [handler] at starts
  exact absurd starts (by decide)

end Extraction

end RouteExplorer
