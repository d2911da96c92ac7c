import RouteExplorer.Proofs.Script.Shortening
import RouteExplorer.Route.Extraction

namespace RouteExplorer

open Script (Source Syntax NodeKind PlacedNode Frame Shortened)

namespace Extraction

/-- A class that is declared, or exported as a value, with a decorator on it or on the export statement around it
that marks a controller. -/
def DeclaresController (source : Source) (place : PlacedNode) : Prop :=
  (place.node.kind = .classDeclaration ∨ place.node.kind = .abstractClassDeclaration ∨
      place.node.kind = .classExpression ∧ ∃ parent, place.parent = some parent ∧ parent.kind = .exportStatement) ∧
    ∃ decorator call, decorator.kind = .decorator ∧ marker? source decorator = some (.controller, call) ∧
      (decorator ∈ place.node.children ∨
        ∃ parent, place.parent = some parent ∧ parent.kind = .exportStatement ∧ decorator ∈ parent.children)

variable {source : Source} {file : FilePath} {place : PlacedNode}

theorem isClass_iff : isClass place = true ↔
    place.node.kind = .classDeclaration ∨ place.node.kind = .abstractClassDeclaration ∨
      place.node.kind = .classExpression ∧ ∃ parent, place.parent = some parent ∧ parent.kind = .exportStatement := by
  unfold isClass
  cases place.node.kind <;> simp [Option.any_eq_true]

theorem mem_childrenOfKind {tree child : Syntax} {kind : NodeKind} :
    child ∈ tree.childrenOfKind kind ↔ child ∈ tree.children ∧ child.kind = kind := by
  simp [Syntax.childrenOfKind]

theorem mem_classDecorators {decorator : Syntax} : decorator ∈ classDecorators place ↔
    decorator.kind = .decorator ∧ (decorator ∈ place.node.children ∨
      ∃ parent, place.parent = some parent ∧ parent.kind = .exportStatement ∧ decorator ∈ parent.children) := by
  unfold classDecorators
  cases place.parent with
  | none => simp [mem_childrenOfKind, and_comm]
  | some parent =>
    by_cases exported : parent.kind = .exportStatement <;>
      simp [mem_childrenOfKind, Option.filter, exported] <;> grind

theorem controllerCall?_isSome_iff {decorators : List Syntax} : (controllerCall? source decorators).isSome = true ↔
    ∃ decorator ∈ decorators, ∃ call, marker? source decorator = some (.controller, call) := by
  unfold controllerCall?
  rw [List.findSome?_isSome_iff]
  refine exists_congr fun decorator => and_congr_right fun _ => ?_
  rcases marker? source decorator with _ | ⟨_ | _ | _, _⟩ <;> simp

theorem controllerOf?_isSome : (controllerOf? source file place).isSome =
    (isClass place && (controllerCall? source (classDecorators place)).isSome) := by
  unfold controllerOf?
  cases isClass place with
  | false => rfl
  | true => cases controllerCall? source (classDecorators place) <;> rfl

/-- A node gives a controller exactly if it declares one. -/
theorem controllerOf?_isSome_iff (source : Source) (file : FilePath) (place : PlacedNode) :
    (controllerOf? source file place).isSome = true ↔ DeclaresController source place := by
  rw [controllerOf?_isSome, Bool.and_eq_true, isClass_iff, controllerCall?_isSome_iff]
  refine and_congr_right fun _ => ⟨?_, ?_⟩
  · rintro ⟨decorator, member, call, marked⟩
    obtain ⟨kind, belongs⟩ := mem_classDecorators.mp member
    exact ⟨decorator, call, kind, marked, belongs⟩
  · rintro ⟨decorator, call, kind, marked, belongs⟩
    exact ⟨decorator, mem_classDecorators.mpr ⟨kind, belongs⟩, call, marked⟩

theorem controllerOf?_eq_none_iff (source : Source) (file : FilePath) (place : PlacedNode) :
    controllerOf? source file place = none ↔ ¬DeclaresController source place := by
  rw [← controllerOf?_isSome_iff source file, Bool.not_eq_true, Option.isSome_eq_false_iff, Option.isNone_iff_eq_none]

theorem controllerIn?_eq (source : Source) (file : FilePath) (tree : Syntax) :
    controllerIn? source file tree =
      (PlacedNode.preorder ⟨tree, none⟩).findSome? (controllerOf? source file) := by
  rw [controllerIn?, PlacedNode.findIn_eq, List.flatMap_cons, List.flatMap_nil, List.append_nil]

theorem controllerIn?_eq_some_iff {tree : Syntax} {controller : Controller} :
    controllerIn? source file tree = some controller ↔
      ∃ before place behind, PlacedNode.preorder ⟨tree, none⟩ = before ++ place :: behind ∧
        (∀ earlier ∈ before, ¬DeclaresController source earlier) ∧ DeclaresController source place ∧
        controllerOf? source file place = some controller := by
  rw [controllerIn?_eq, List.findSome?_eq_some_iff]
  constructor
  · rintro ⟨before, place, behind, splits, found, earlier⟩
    refine ⟨before, place, behind, splits, fun other member => ?_, ?_, found⟩
    · exact (controllerOf?_eq_none_iff ..).mp (earlier other member)
    · exact (controllerOf?_isSome_iff source file place).mp (Option.isSome_of_eq_some found)
  · rintro ⟨before, place, behind, splits, earlier, _, found⟩
    exact ⟨before, place, behind, splits, found, fun other member =>
      (controllerOf?_eq_none_iff ..).mpr (earlier other member)⟩

theorem controllerIn?_eq_none_iff {tree : Syntax} : controllerIn? source file tree = none ↔
    ∀ place ∈ PlacedNode.preorder ⟨tree, none⟩, ¬DeclaresController source place := by
  rw [controllerIn?_eq, List.findSome?_eq_none_iff]
  exact forall₂_congr fun place _ => controllerOf?_eq_none_iff source file place

theorem textOf_of_shortened {part whole : Syntax} (shorter : Shortened part whole) :
    source.textOf part = source.textOf whole := by
  rw [Source.textOf, shorter.span.1, shorter.span.2]
  rfl

theorem decoratorCall?_of_shortened {part whole : Syntax} (shorter : Shortened part whole) {call : DecoratorCall}
    (calls : decoratorCall? source part = some call) :
    ∃ other, decoratorCall? source whole = some other ∧ other.name = call.name := by
  obtain ⟨expression, head, names⟩ := Option.bind_eq_some_iff.mp calls
  obtain ⟨other, whole_head, fewer⟩ := shorter.exists_head head
  have text : source.textOf expression = source.textOf other := textOf_of_shortened fewer
  unfold decoratorCall?
  rw [whole_head, Option.bind_eq_bind, Option.bind_some, ← fewer.kind, ← text]
  cases kind : expression.kind with
  | call =>
    rw [kind] at names
    obtain ⟨function, found, names⟩ := Option.bind_eq_some_iff.mp names
    obtain rfl := Option.some.inj names
    obtain ⟨whole_function, whole_found, lesser⟩ := fewer.exists_child? (by simp [kind]) found
    refine ⟨_, by simp only [whole_found, Option.bind_some]; rfl, ?_⟩
    rw [textOf_of_shortened lesser]
  | identifier | member =>
    rw [kind] at names
    exact ⟨call, names, rfl⟩
  | _ =>
    rw [kind] at names
    cases names

theorem marker?_of_shortened {part whole : Syntax} (shorter : Shortened part whole) {marker : Marker}
    {call : DecoratorCall} (marked : marker? source part = some (marker, call)) :
    ∃ other, marker? source whole = some (marker, other) := by
  simp only [marker?, Option.bind_eq_bind, Option.bind_eq_some_iff] at marked ⊢
  obtain ⟨_, calls, _, named, same⟩ := marked
  obtain ⟨rfl, rfl⟩ := Prod.mk.inj (Option.some.inj same)
  obtain ⟨other, whole_calls, name⟩ := decoratorCall?_of_shortened shorter calls
  exact ⟨other, other, whole_calls, _, by rw [name, named], rfl⟩

/-- What lacks nodes behind a place declares no more controllers than with them. -/
theorem declaresController_of_shortened {part whole : PlacedNode} (shorter : Shortened.OfPlace part whole)
    (declares : DeclaresController source part) : DeclaresController source whole := by
  obtain ⟨isClass, decorator, call, kind, marked, belongs⟩ := declares
  have around {parent : Syntax} (here : part.parent = some parent) :
      ∃ other, whole.parent = some other ∧ Shortened parent other := by
    have related := shorter.parent
    rw [here] at related
    generalize whole.parent = outer at related
    cases related with
    | some fewer => exact ⟨_, rfl, fewer⟩
  refine ⟨?_, ?_⟩
  · rw [← shorter.node.kind]
    refine isClass.imp_right (Or.imp_right (And.imp_right ?_))
    rintro ⟨parent, here, exported⟩
    obtain ⟨other, there, fewer⟩ := around here
    exact ⟨other, there, fewer.kind ▸ exported⟩
  · rcases belongs with own | ⟨parent, here, exported, member⟩
    · obtain ⟨other, member, fewer⟩ := shorter.node.exists_child own
      obtain ⟨_, still⟩ := marker?_of_shortened fewer marked
      exact ⟨other, _, fewer.kind ▸ kind, still, .inl member⟩
    · obtain ⟨outer, there, lacks⟩ := around here
      obtain ⟨other, member, fewer⟩ := lacks.exists_child member
      obtain ⟨_, still⟩ := marker?_of_shortened fewer marked
      exact ⟨other, _, fewer.kind ▸ kind, still, .inr ⟨outer, there, lacks.kind ▸ exported, member⟩⟩

theorem childrenOfKind_kept {frame : Frame} (exported : frame.kind = .exportStatement) (tree : Syntax) :
    ((frame.withRight frame.kept).around tree).childrenOfKind .decorator =
      (frame.around tree).childrenOfKind .decorator := by
  have kept : frame.kept = frame.right.filter fun child => child.kind == .decorator := if_pos exported
  simp only [Syntax.childrenOfKind, Syntax.children, Frame.around, Frame.withRight, kept]
  rw [List.filter_append, List.filter_append, List.filter_cons, List.filter_cons, List.filter_filter]
  simp only [Bool.and_self]

theorem classDecorators_placeOf (frame : Frame) (outer : List Frame) (tree : Syntax) :
    classDecorators (Frame.placeOf (frame :: outer) tree) =
      (if frame.kind = .exportStatement then (frame.around tree).childrenOfKind .decorator else []) ++
        tree.childrenOfKind .decorator := by
  have kind : (frame.around tree).kind = frame.kind := rfl
  have parent : (Frame.placeOf (frame :: outer) tree).parent = some (frame.around tree) := rfl
  rw [classDecorators, parent, Option.filter_some, kind]
  by_cases exported : frame.kind = .exportStatement
  · simp only [exported, beq_self_eq_true, ↓reduceIte, Option.toList_some, List.flatMap_cons, List.flatMap_nil,
      List.append_nil]
    rfl
  · simp only [exported, beq_iff_eq, ↓reduceIte, Option.toList_none, List.flatMap_nil]
    rfl

/-- A class is the same controller when what is behind it goes. -/
theorem controllerOf?_cut (source : Source) (file : FilePath) (frames : List Frame) (tree : Syntax) :
    controllerOf? source file (Frame.placeOf (Frame.cut frames) tree) =
      controllerOf? source file (Frame.placeOf frames tree) := by
  cases frames with
  | nil => rfl
  | cons frame outer =>
    have kind : (frame.withRight frame.kept).kind = frame.kind := rfl
    have decorators : classDecorators (Frame.placeOf (Frame.cut (frame :: outer)) tree) =
        classDecorators (Frame.placeOf (frame :: outer) tree) := by
      rw [Frame.cut, classDecorators_placeOf, classDecorators_placeOf, kind]
      by_cases exported : frame.kind = .exportStatement
      · rw [if_pos exported, if_pos exported, childrenOfKind_kept exported]
      · rw [if_neg exported, if_neg exported]
    unfold controllerOf?
    rw [decorators]
    rfl

/-- The class at a place is the first controller of its tree. -/
structure IsFirst (source : Source) (frames : List Frame) (tree : Syntax) : Prop where
  declares : DeclaresController source (Frame.placeOf frames tree)
  earlier : ∀ place ∈ Frame.before frames tree, ¬DeclaresController source place

variable {frames : List Frame} {tree : Syntax}

theorem IsFirst.cut (first : IsFirst source frames tree) : IsFirst source (Frame.cut frames) tree where
  declares := by
    have same := controllerOf?_cut source ⟨""⟩ frames tree
    rw [← controllerOf?_isSome_iff, same]
    exact (controllerOf?_isSome_iff ..).mpr first.declares
  earlier place member declares := by
    obtain ⟨whole, present, shorter⟩ := Frame.exists_before_cut frames tree place member
    exact first.earlier whole present (declaresController_of_shortened shorter declares)

/-- The first controller of a tree is what the walk finds in it. -/
theorem IsFirst.controllerIn? (first : IsFirst source frames tree) (file : FilePath) :
    Extraction.controllerIn? source file (Frame.plug frames tree) =
      controllerOf? source file (Frame.placeOf frames tree) := by
  have given := (controllerOf?_isSome_iff source file _).mpr first.declares
  obtain ⟨controller, found⟩ := Option.isSome_iff_exists.mp given
  rw [found, controllerIn?_eq_some_iff]
  have nodes := Frame.preorder_plug frames tree
  rw [PlacedNode.preorder_eq (Frame.placeOf frames tree), List.append_assoc, List.cons_append] at nodes
  exact ⟨_, _, _, nodes, first.earlier, first.declares, found⟩

/-- The walk through a tree ends within one turn more than there are nodes, and finds what the search by recursion
finds: the controller that the first node declares which declares one, and none where no node does. Where a class
is that node, the result stays the same when everything behind the class goes but the decorators of the export
statement around it; so trees have one result if nothing else sets them apart. -/
theorem firstController_found (source : Source) (file : FilePath) (tree : Syntax) :
    PlacedNode.walk (controllerOf? source file) (tree.count + 1) [⟨tree, none⟩] =
        some (controllerIn? source file tree) ∧
      controllerIn? source file tree = tree.firstUnder (controllerOf? source file) none ∧
      (∀ controller, controllerIn? source file tree = some controller ↔
        ∃ before place behind, PlacedNode.preorder ⟨tree, none⟩ = before ++ place :: behind ∧
          (∀ earlier ∈ before, ¬DeclaresController source earlier) ∧ DeclaresController source place ∧
          controllerOf? source file place = some controller) ∧
      (controllerIn? source file tree = none ↔
        ∀ place ∈ PlacedNode.preorder ⟨tree, none⟩, ¬DeclaresController source place) ∧
      ∀ frames node, Frame.plug frames node = tree → IsFirst source frames node →
        controllerIn? source file (Frame.plug (Frame.cut frames) node) = controllerIn? source file tree ∧
        ∀ others, Frame.cut others = Frame.cut frames → IsFirst source others node →
          controllerIn? source file (Frame.plug others node) = controllerIn? source file tree := by
  have enough : PlacedNode.countAll [⟨tree, none⟩] < tree.count + 1 := by
    simp [PlacedNode.countAll, Syntax.countAll]
  refine ⟨PlacedNode.walk_eq_findIn _ enough, ?_, fun _ => controllerIn?_eq_some_iff, controllerIn?_eq_none_iff, ?_⟩
  · rw [controllerIn?_eq, PlacedNode.firstUnder_eq]
    rfl
  · rintro frames node rfl first
    have shortened {frames : List Frame} (first : IsFirst source frames node) :
        controllerIn? source file (Frame.plug (Frame.cut frames) node) =
          controllerIn? source file (Frame.plug frames node) := by
      rw [first.cut.controllerIn?, first.controllerIn?, controllerOf?_cut]
    refine ⟨shortened first, fun others same foremost => ?_⟩
    rw [← shortened foremost, same, shortened first]

/-- A plain class, and two controllers behind it of which the second is not seen. -/
def herdSource : Source := .ofText "class X\x7b\x7d@Controller class A\x7b\x7d@Controller class B\x7b\x7d" false

def herdClass (start : Nat) : Syntax :=
  .node .classDeclaration none start (start + 21)
    [.node .decorator none start (start + 11) [.leaf .identifier (start + 1) (start + 11)],
      (Syntax.leaf .identifier (start + 18) (start + 19)).inRole .name,
      (Syntax.leaf .classBody (start + 19) (start + 21)).inRole .body]

def herdFrame : Frame := ⟨.other, none, 0, 51, [.leaf .classDeclaration 0 9], [herdClass 30]⟩

theorem herd_isFirst : IsFirst herdSource [herdFrame] (herdClass 9) where
  declares := (controllerOf?_isSome_iff herdSource ⟨"herd.ts"⟩ _).mp rfl
  earlier := by
    have nodes : Frame.before [herdFrame] (herdClass 9) =
        [⟨herdFrame.around (herdClass 9), none⟩,
          ⟨.leaf .classDeclaration 0 9, some (herdFrame.around (herdClass 9))⟩] := rfl
    rw [nodes]
    intro place member
    rcases List.mem_pair.mp member with rfl | rfl <;>
      exact (controllerOf?_eq_none_iff herdSource ⟨"herd.ts"⟩ _).mp rfl

theorem herd_found :
    Frame.plug [herdFrame] (herdClass 9) = herdFrame.around (herdClass 9) ∧
      IsFirst herdSource [herdFrame] (herdClass 9) ∧
      (controllerIn? herdSource ⟨"herd.ts"⟩ (herdFrame.around (herdClass 9))).map (·.name) = some "A" ∧
      controllerIn? herdSource ⟨"herd.ts"⟩ (herdFrame.bare.around (herdClass 9)) =
        controllerIn? herdSource ⟨"herd.ts"⟩ (herdFrame.around (herdClass 9)) := by
  obtain ⟨_, searched, _, _, cut⟩ :=
    firstController_found herdSource ⟨"herd.ts"⟩ (herdFrame.around (herdClass 9))
  refine ⟨rfl, herd_isFirst, ?_, (cut [herdFrame] (herdClass 9) rfl herd_isFirst).1⟩
  rw [searched]
  rfl

end Extraction

end RouteExplorer
