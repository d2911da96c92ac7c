import Mathlib.Data.List.DropRight
import Mathlib.Data.List.Forall2
import RouteExplorer.Route.Extraction

namespace RouteExplorer.Extraction

open Script (Source Syntax NodeKind)

/-- A method and the decorators that stand before it among the members. -/
structure MarkedMethod where
  waiting : List Syntax
  method : Syntax

def MarkedMethod.decorators (marked : MarkedMethod) : List Syntax :=
  marked.waiting ++ marked.method.childrenOfKind .decorator

/-- Members that may stand between a decorator and its method. -/
def isPassed (member : Syntax) : Bool := member.kind == .decorator || member.kind == .comment

/-- The decorators right before a place: those of the longest run of decorators and comments that ends there. -/
def decoratorsBefore (front : List Syntax) : List Syntax :=
  (front.rtakeWhile isPassed).filter fun member => member.kind == .decorator

def methodsBehind (front : List Syntax) : List Syntax → List MarkedMethod
  | [] => []
  | member :: rest =>
    if member.kind = .methodDefinition then
      ⟨decoratorsBefore front, member⟩ :: methodsBehind (front ++ [member]) rest
    else methodsBehind (front ++ [member]) rest

def methodsAmong (members : List Syntax) : List MarkedMethod := methodsBehind [] members

def isVerb (source : Source) (decorator : Syntax) : Bool :=
  match marker? source decorator with
  | some (.verb _, _) => true
  | _ => false

/-- Whether a method handles requests: it has a name, and one of its decorators marks a verb. -/
def MarkedMethod.isHandler (source : Source) (marked : MarkedMethod) : Bool :=
  (marked.method.child? .name).isSome && marked.decorators.any (isVerb source)

/-- What a route has from its method: the verb and the path of the first decorator that marks a verb, and the
name and its place. -/
structure Handles (source : Source) (marked : MarkedMethod) (route : Route) : Prop where
  marker : ∃ before decorator behind verb call, marked.decorators = before ++ decorator :: behind ∧
    (∀ earlier ∈ before, isVerb source earlier = false) ∧
    marker? source decorator = some (.verb verb, call) ∧
    route.httpMethod = verb.text ∧ route.declaredPath = call.path source
  name : ∃ name, marked.method.child? .name = some name ∧ route.handlerName = handlerName source name ∧
    route.line = (source.position name.start).row + 1 ∧ route.column = (source.position name.start).column

theorem decoratorsBefore_concat (front : List Syntax) (member : Syntax) :
    decoratorsBefore (front ++ [member]) =
      if isPassed member then decoratorsBefore front ++ [member].filter (·.kind == .decorator) else [] := by
  unfold decoratorsBefore
  split
  · next passed => rw [List.rtakeWhile_concat_pos _ _ _ passed, List.filter_append]
  · next stands => rw [List.rtakeWhile_concat_neg _ _ _ (by simpa using stands), List.filter_nil]

/-- The decorators that wait are those right before the members to come. -/
theorem routesFrom_decoratorsBefore (source : Source) (owner : Controller) (front members : List Syntax) :
    routesFrom source owner (decoratorsBefore front) members =
      (methodsBehind front members).filterMap fun marked =>
        route? source owner marked.decorators marked.method := by
  -- the loop's waiting list is always the run that ends where it has come to
  induction members generalizing front with
  | nil => rfl
  | cons member rest ih =>
    have later := ih (front ++ [member])
    rw [decoratorsBefore_concat] at later
    cases kind : member.kind with
    | methodDefinition =>
      simp only [isPassed, kind] at later
      simp only [routesFrom, methodsBehind, kind, ↓reduceIte, List.filterMap_cons]
      rw [MarkedMethod.decorators, ← later]
      cases route? source owner (decoratorsBefore front ++ member.childrenOfKind .decorator) member <;> rfl
    | _ => simpa [routesFrom, methodsBehind, isPassed, kind] using later

theorem routesFrom_eq (source : Source) (owner : Controller) (members : List Syntax) :
    routesFrom source owner [] members =
      (methodsAmong members).filterMap fun marked => route? source owner marked.decorators marked.method :=
  routesFrom_decoratorsBefore source owner [] members

/-- The decorators that stand before methods are some of the members, each of them once. -/
theorem waiting_sublist (front members : List Syntax) :
    ((methodsBehind front members).flatMap MarkedMethod.waiting).Sublist (decoratorsBefore front ++ members) := by
  induction members generalizing front with
  | nil => simp [methodsBehind]
  | cons member rest ih =>
    have later := ih (front ++ [member])
    rw [decoratorsBefore_concat] at later
    cases kind : member.kind with
    | methodDefinition =>
      simp only [isPassed, kind] at later
      simp only [methodsBehind, kind, ↓reduceIte, List.flatMap_cons]
      exact (List.Sublist.refl _).append (later.trans (List.sublist_cons_self _ _))
    | decorator => simpa [methodsBehind, isPassed, kind] using later
    | comment =>
      have waits := List.Sublist.refl (decoratorsBefore front)
      have skips := waits.append (List.sublist_cons_self member rest)
      exact Trans.trans (by simpa [methodsBehind, isPassed, kind] using later) skips
    | _ =>
      have skips := (List.sublist_cons_self member rest).trans (List.sublist_append_right (decoratorsBefore front) _)
      exact Trans.trans (by simpa [methodsBehind, isPassed, kind] using later) skips

/-- Nothing that stands before a member other than a decorator or a comment reaches behind it. -/
theorem routesFrom_cut (source : Source) (owner : Controller) {last : Syntax} (stands : isPassed last = false)
    (waiting front behind : List Syntax) :
    routesFrom source owner waiting (front ++ last :: behind) =
      routesFrom source owner waiting (front ++ [last]) ++ routesFrom source owner [] behind := by
  induction front generalizing waiting with
  | nil =>
    cases kind : last.kind with
    | decorator | comment => simp [isPassed, kind] at stands
    | _ => simp [routesFrom, kind]
  | cons member rest ih => cases kind : member.kind <;> simp [routesFrom, kind, ih]

theorem verb?_isSome (source : Source) (decorators : List Syntax) :
    (verb? source decorators).isSome = decorators.any (isVerb source) := by
  induction decorators with
  | nil => rfl
  | cons decorator rest ih =>
    unfold verb? at ih ⊢
    rw [List.findSome?_cons, List.any_cons, ← ih, isVerb]
    rcases marker? source decorator with _ | ⟨_ | _ | _, _⟩ <;> rfl

theorem route?_isSome (source : Source) (owner : Controller) (marked : MarkedMethod) :
    (route? source owner marked.decorators marked.method).isSome = marked.isHandler source := by
  unfold route? MarkedMethod.isHandler
  rw [← verb?_isSome, Bool.and_comm]
  cases verb? source marked.decorators with
  | none => rfl
  | some found => cases marked.method.child? .name <;> rfl

theorem handles_of_route? {source : Source} {owner : Controller} {marked : MarkedMethod} {route : Route}
    (found : route? source owner marked.decorators marked.method = some route) :
    Handles source marked route := by
  simp only [route?, Option.bind_eq_bind, Option.bind_eq_some_iff] at found
  obtain ⟨⟨verb, call⟩, marks, name, named, shape⟩ := found
  cases shape
  obtain ⟨before, decorator, behind, splits, marker, earlier⟩ := List.findSome?_eq_some_iff.mp marks
  refine ⟨⟨before, decorator, behind, verb, call, splits, ?_, ?_, rfl, rfl⟩, name, named, rfl, rfl, rfl⟩
  · intro other member
    have unmarked := earlier other member
    unfold isVerb
    rcases reads : marker? source other with _ | ⟨_ | _ | _, _⟩ <;> simp [reads] at unmarked ⊢
  · rcases reads : marker? source decorator with _ | ⟨_ | _ | _, _⟩ <;> simp [reads] at marker
    obtain ⟨rfl, rfl⟩ := marker
    rfl

/-- Where a step gives a result exactly for the items that pass, the results stand in relation to those items. -/
private theorem forall₂_filterMap {α β : Type} {step : α → Option β} {passes : α → Bool} {relation : α → β → Prop}
    (gives : ∀ item, (step item).isSome = passes item)
    (related : ∀ item result, step item = some result → relation item result) (items : List α) :
    List.Forall₂ relation (items.filter passes) (items.filterMap step) := by
  induction items with
  | nil => exact .nil
  | cons item rest ih =>
    have given := gives item
    rw [List.filter_cons, List.filterMap_cons, ← given]
    cases result : step item with
    | none => exact ih
    | some found => exact .cons (related item found result) ih

theorem routesFrom_handles (source : Source) (owner : Controller) (members : List Syntax) :
    List.Forall₂ (Handles source) ((methodsAmong members).filter (·.isHandler source))
      (routesFrom source owner [] members) := by
  rw [routesFrom_eq]
  exact forall₂_filterMap (route?_isSome source owner) (fun _ _ => handles_of_route?) _

/-- The routes of a class are those of its methods that have a name and a verb among their decorators, in order:
verb and path come from the first such decorator, of those right before the method and then of those inside. No
decorator before a method belongs to another one, and what stands before any member other than a decorator or a
comment has no part in the routes behind it. -/
theorem routes_attributed (source : Source) (owner : Controller) (members : List Syntax) :
    List.Forall₂ (Handles source) ((methodsAmong members).filter (·.isHandler source))
        (routesFrom source owner [] members) ∧
      ((methodsAmong members).flatMap MarkedMethod.waiting).Sublist members ∧
      ∀ front last behind, members = front ++ last :: behind → isPassed last = false →
        routesFrom source owner [] members =
          routesFrom source owner [] (front ++ [last]) ++ routesFrom source owner [] behind := by
  refine ⟨routesFrom_handles source owner members, waiting_sublist [] members, ?_⟩
  rintro front last behind rfl stands
  exact routesFrom_cut source owner stands [] front behind

/-- Two decorators with a comment in between before one method, and one in a field before another. -/
def petsSource : Source := .ofText "@Get/**/@Put a()\x7b\x7d@All x=1;b()\x7b\x7d" false

def bareDecorator (start stop : Nat) : Syntax :=
  .node .decorator none start stop [.leaf .identifier (start + 1) stop]

def bareMethod (start : Nat) : Syntax :=
  .node .methodDefinition none start (start + 5) [(Syntax.leaf .memberName start (start + 1)).inRole .name]

def petsFront : List Syntax := [bareDecorator 0 4, .leaf .comment 4 8, bareDecorator 8 12, bareMethod 13]

def petsField : Syntax :=
  .node .other none 18 26 [bareDecorator 18 22, (Syntax.leaf .memberName 23 24).inRole .name, .leaf .other 25 26]

def petsOwner : Controller := ⟨"Pets", "", ⟨"pets.ts"⟩, []⟩

theorem pets_attributed :
    isPassed petsField = false ∧
      (routesFrom petsSource petsOwner [] (petsFront ++ petsField :: [bareMethod 27])).map
        (fun route => (route.httpMethod, route.handlerName)) = [("GET", "a")] ∧
      routesFrom petsSource petsOwner [] (petsFront ++ petsField :: [bareMethod 27]) =
        routesFrom petsSource petsOwner [] (petsFront ++ [petsField]) ++
          routesFrom petsSource petsOwner [] [bareMethod 27] := by
  obtain ⟨_, _, cut⟩ := routes_attributed petsSource petsOwner (petsFront ++ petsField :: [bareMethod 27])
  exact ⟨rfl, by rfl, cut _ _ _ rfl rfl⟩

end RouteExplorer.Extraction
