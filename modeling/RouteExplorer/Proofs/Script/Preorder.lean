import Mathlib.Data.List.Forall2
import RouteExplorer.Script.Syntax

/-!
The walk through a tree with a stack of nodes still to visit. It ends within as many turns as there are nodes and
finds what the search by recursion finds: the first result in preorder. A place in a tree is a tree in frames,
and the frames tell what comes before and behind it.
-/
namespace RouteExplorer.Script

mutual

/-- The nodes of a tree with the nodes around them, each before its children. -/
def Syntax.placesUnder (parent : Option Syntax) : Syntax → List PlacedNode
  | .node kind role start stop children =>
    ⟨.node kind role start stop children, parent⟩ ::
      placesAmong (.node kind role start stop children) children

def Syntax.placesAmong (parent : Syntax) : List Syntax → List PlacedNode
  | [] => []
  | child :: rest => child.placesUnder (some parent) ++ placesAmong parent rest

end

mutual

/-- The first result in a tree, found by recursion: the node's own, or else the first one in its children. -/
def Syntax.firstUnder {α : Type} (select : PlacedNode → Option α) (parent : Option Syntax) : Syntax → Option α
  | .node kind role start stop children =>
    match select ⟨.node kind role start stop children, parent⟩ with
    | some result => some result
    | none => firstAmong select (.node kind role start stop children) children

def Syntax.firstAmong {α : Type} (select : PlacedNode → Option α) (parent : Syntax) : List Syntax → Option α
  | [] => none
  | child :: rest =>
    match child.firstUnder select (some parent) with
    | some result => some result
    | none => firstAmong select parent rest

end

namespace PlacedNode

/-- A node and all nodes below it, each before its children. -/
def preorder (place : PlacedNode) : List PlacedNode := place.node.placesUnder place.parent

theorem placesAmong_eq (parent : Syntax) (children : List Syntax) :
    Syntax.placesAmong parent children = (children.map fun child => ⟨child, some parent⟩).flatMap preorder := by
  induction children with
  | nil => rfl
  | cons child rest ih => rw [Syntax.placesAmong, ih, List.map_cons, List.flatMap_cons, preorder]

theorem preorder_eq (place : PlacedNode) : place.preorder = place :: place.children.flatMap preorder := by
  obtain ⟨⟨kind, role, start, stop, children⟩, parent⟩ := place
  rw [preorder, Syntax.placesUnder, placesAmong_eq]
  rfl

theorem mem_preorder_self (place : PlacedNode) : place ∈ place.preorder := by
  rw [preorder_eq]
  exact List.mem_cons_self ..

mutual

theorem child_mem_placesUnder (parent : Option Syntax) {place : PlacedNode} {child : Syntax}
    (below : child ∈ place.node.children) : (tree : Syntax) → place ∈ tree.placesUnder parent →
      ⟨child, some place.node⟩ ∈ tree.placesUnder parent
  | .node kind role start stop children => by
    intro member
    rw [Syntax.placesUnder, List.mem_cons] at member ⊢
    rcases member with rfl | inner
    · right
      rw [placesAmong_eq]
      exact List.mem_flatMap_of_mem (List.mem_map_of_mem below) (mem_preorder_self _)
    · exact .inr (child_mem_placesAmong _ below children inner)

theorem child_mem_placesAmong (parent : Syntax) {place : PlacedNode} {child : Syntax}
    (below : child ∈ place.node.children) : (children : List Syntax) →
      place ∈ Syntax.placesAmong parent children →
        ⟨child, some place.node⟩ ∈ Syntax.placesAmong parent children
  | [] => by simp [Syntax.placesAmong]
  | first :: rest => by
    intro member
    rw [Syntax.placesAmong, List.mem_append] at member ⊢
    exact member.imp (child_mem_placesUnder _ below first) (child_mem_placesAmong _ below rest)

end

theorem child_mem_preorder {root place : PlacedNode} (member : place ∈ root.preorder) {child : Syntax}
    (below : child ∈ place.node.children) : ⟨child, some place.node⟩ ∈ root.preorder :=
  child_mem_placesUnder _ below _ member

variable {α : Type} (select : PlacedNode → Option α)

mutual

/-- The search by recursion finds the first result in preorder. -/
theorem firstUnder_eq (parent : Option Syntax) : (tree : Syntax) →
    tree.firstUnder select parent = (tree.placesUnder parent).findSome? select
  | .node kind role start stop children => by
    rw [Syntax.firstUnder, Syntax.placesUnder, List.findSome?_cons, firstAmong_eq]
    cases select ⟨.node kind role start stop children, parent⟩ <;> rfl

theorem firstAmong_eq (parent : Syntax) : (children : List Syntax) →
    Syntax.firstAmong select parent children = (Syntax.placesAmong parent children).findSome? select
  | [] => rfl
  | child :: rest => by
    rw [Syntax.firstAmong, Syntax.placesAmong, List.findSome?_append, firstUnder_eq, firstAmong_eq]
    cases (child.placesUnder (some parent)).findSome? select <;> rfl

end

/-- The walk finds the first result in the preorder of its stack: what is left of a node are its children, and
they come right before the rest of the stack. -/
theorem findIn_eq (stack : List PlacedNode) :
    findIn select stack = (stack.flatMap preorder).findSome? select := by
  fun_induction findIn select stack with
  | case1 => rfl
  | case2 place rest result selected =>
    rw [List.flatMap_cons, preorder_eq, List.cons_append, List.findSome?_cons, selected]
  | case3 place rest rejected ih =>
    rw [List.flatMap_cons, preorder_eq, List.cons_append, List.findSome?_cons, rejected, ih,
      List.flatMap_append]

inductive Turn (α : Type) where
  | found (result : α)
  | finished
  | goesOn (stack : List PlacedNode)

/-- One turn: the node on top of the stack gives a result or makes room for its children. -/
def turn : List PlacedNode → Turn α
  | [] => .finished
  | place :: rest =>
    match select place with
    | some result => .found result
    | none => .goesOn (place.children ++ rest)

/-- What the walk has come to after some turns; nothing while it goes on. -/
def walk : Nat → List PlacedNode → Option (Option α)
  | 0, _ => none
  | turns + 1, stack =>
    match turn select stack with
    | .found result => some (some result)
    | .finished => some none
    | .goesOn next => walk turns next

theorem countAll_children_append (place : PlacedNode) (rest : List PlacedNode) :
    countAll (place.children ++ rest) + 1 = countAll (place :: rest) := by
  obtain ⟨⟨kind, role, start, stop, children⟩, parent⟩ := place
  have nodes : ((⟨.node kind role start stop children, parent⟩ : PlacedNode).children).map node = children := by
    simp [PlacedNode.children, Syntax.children, Function.comp_def]
  simp only [countAll, List.map_append, nodes, Syntax.countAll_append, List.map_cons, Syntax.countAll, Syntax.count]
  omega

/-- The walk ends within one turn more than there are nodes, with what it finds. -/
theorem walk_eq_findIn {turns : Nat} {stack : List PlacedNode} (enough : countAll stack < turns) :
    walk select turns stack = some (findIn select stack) := by
  induction turns generalizing stack with
  | zero => omega
  | succ turns ih =>
    cases stack with
    | nil => simp [walk, turn, findIn]
    | cons place rest =>
      rw [walk, turn, findIn]
      cases select place with
      | some result => rfl
      | none =>
        have fewer := countAll_children_append place rest
        exact ih (by omega)

end PlacedNode

/-- What lies around a place in a tree: a node, and its children before and behind the place. -/
structure Frame where
  kind : NodeKind
  role : Option Role
  start : Nat
  stop : Nat
  left : List Syntax
  right : List Syntax

namespace Frame

def around (frame : Frame) (tree : Syntax) : Syntax :=
  .node frame.kind frame.role frame.start frame.stop (frame.left ++ tree :: frame.right)

/-- A tree in some frames, the innermost first. -/
def plug : List Frame → Syntax → Syntax
  | [], tree => tree
  | frame :: outer, tree => plug outer (frame.around tree)

def placeOf (frames : List Frame) (tree : Syntax) : PlacedNode := ⟨tree, frames.head?.map (·.around tree)⟩

def besides (frame : Frame) (tree : Syntax) (children : List Syntax) : List PlacedNode :=
  (children.map fun child => ⟨child, some (frame.around tree)⟩).flatMap PlacedNode.preorder

/-- The nodes before a tree in some frames: those around it, and those to the left. -/
def before : List Frame → Syntax → List PlacedNode
  | [], _ => []
  | frame :: outer, tree =>
    before outer (frame.around tree) ++ placeOf outer (frame.around tree) :: frame.besides tree frame.left

/-- The nodes behind a tree in some frames that are not in it. -/
def behind : List Frame → Syntax → List PlacedNode
  | [], _ => []
  | frame :: outer, tree => frame.besides tree frame.right ++ behind outer (frame.around tree)

theorem preorder_plug (frames : List Frame) (tree : Syntax) :
    PlacedNode.preorder ⟨plug frames tree, none⟩ =
      before frames tree ++ (placeOf frames tree).preorder ++ behind frames tree := by
  induction frames generalizing tree with
  | nil => simp [plug, before, behind, placeOf]
  | cons frame outer ih =>
    have children : (placeOf outer (frame.around tree)).children.flatMap PlacedNode.preorder =
        frame.besides tree frame.left ++ (placeOf (frame :: outer) tree).preorder ++
          frame.besides tree frame.right := by
      simp [placeOf, PlacedNode.children, around, Syntax.children, besides]
    rw [plug, ih, PlacedNode.preorder_eq (placeOf outer _), children, before, behind]
    simp

end Frame

end RouteExplorer.Script
