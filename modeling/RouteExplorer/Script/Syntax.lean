namespace RouteExplorer.Script

inductive NodeKind where
  | classDeclaration
  | abstractClassDeclaration
  | classExpression
  | exportStatement
  | decorator
  | comment
  | classBody
  | methodDefinition
  | memberName
  | privateName
  | identifier
  | parameters
  | requiredParameter
  | optionalParameter
  | typeClause
  | call
  | member
  | arguments
  | string
  | object
  | pair
  | other
deriving DecidableEq, Repr

inductive Role where
  | name | body | parameters | pattern | type | function | arguments | key | value
deriving DecidableEq, Repr

/-- A node from its first character up to the one behind its last, with its children in order. -/
inductive Syntax where
  | node (kind : NodeKind) (role : Option Role) (start stop : Nat) (children : List Syntax)
deriving Repr

namespace Syntax

def kind : Syntax → NodeKind
  | .node kind _ _ _ _ => kind

def role : Syntax → Option Role
  | .node _ role _ _ _ => role

def start : Syntax → Nat
  | .node _ _ start _ _ => start

def stop : Syntax → Nat
  | .node _ _ _ stop _ => stop

def children : Syntax → List Syntax
  | .node _ _ _ _ children => children

def inRole (role : Role) : Syntax → Syntax
  | .node kind _ start stop children => .node kind (some role) start stop children

def leaf (kind : NodeKind) (start stop : Nat) : Syntax := .node kind none start stop []

/-- A node without a kind of its own. -/
def group (start stop : Nat) (children : List Syntax) : Syntax :=
  .node .other none start stop children

def child? (tree : Syntax) (role : Role) : Option Syntax :=
  tree.children.find? fun child => child.role == some role

def childrenOfKind (tree : Syntax) (kind : NodeKind) : List Syntax :=
  tree.children.filter fun child => child.kind == kind

mutual

def count : Syntax → Nat
  | .node _ _ _ _ children => countAll children + 1

def countAll : List Syntax → Nat
  | [] => 0
  | tree :: rest => tree.count + countAll rest

end

theorem countAll_append (trees others : List Syntax) :
    countAll (trees ++ others) = countAll trees + countAll others := by
  induction trees with
  | nil => simp [countAll]
  | cons tree rest ih => simp [countAll, ih, Nat.add_assoc]

theorem countAll_children_lt (tree : Syntax) : countAll tree.children < tree.count := by
  cases tree
  simp [count, children]

end Syntax

/-- A node together with the one around it. -/
structure PlacedNode where
  node : Syntax
  parent : Option Syntax

namespace PlacedNode

def children (place : PlacedNode) : List PlacedNode :=
  place.node.children.map fun child => ⟨child, some place.node⟩

def countAll (places : List PlacedNode) : Nat := Syntax.countAll (places.map node)

/-- The first result among the nodes of some trees, each node before its children. -/
def findIn {α : Type} (select : PlacedNode → Option α) : List PlacedNode → Option α
  | [] => none
  | place :: rest =>
    match select place with
    | some result => some result
    | none => findIn select (place.children ++ rest)
termination_by places => countAll places
decreasing_by
  have := place.node.countAll_children_lt
  simp only [countAll, children, List.map_append, List.map_map, List.map_cons,
    Syntax.countAll_append, Syntax.countAll]
  have same : (node ∘ fun child => (⟨child, some place.node⟩ : PlacedNode)) = id := rfl
  rw [same, List.map_id]
  omega

end PlacedNode

end RouteExplorer.Script
