import RouteExplorer.Proofs.Script.Preorder

namespace RouteExplorer.Script

namespace Frame

def withRight (frame : Frame) (right : List Syntax) : Frame := { frame with right := right }

def bare (frame : Frame) : Frame := frame.withRight []

/-- What stays behind a place if all must go but the decorators of an export statement. -/
def kept (frame : Frame) : List Syntax :=
  if frame.kind = .exportStatement then frame.right.filter fun child => child.kind == .decorator else []

/-- Frames without what is behind their place; the decorators of an export statement right around it stay. -/
def cut : List Frame → List Frame
  | [] => []
  | inner :: outer => inner.withRight inner.kept :: outer.map bare

theorem kept_subset (frame : Frame) : frame.kept ⊆ frame.right := by
  unfold kept
  split
  · exact List.filter_subset_self _
  · exact List.nil_subset _

theorem kept_eq_nil {frame : Frame} (kind : frame.kind ≠ .exportStatement) : frame.kept = [] := if_neg kind

end Frame

/-- The first tree lacks nodes of the second behind one place; right around it only an export statement may have
kept some. -/
inductive Shortened : Syntax → Syntax → Prop where
  | refl (tree : Syntax) : Shortened tree tree
  | within (frame : Frame) {right : List Syntax} {part whole : Syntax} (fewer : right ⊆ frame.right)
    (bare : frame.kind ≠ .exportStatement → right = []) (shorter : Shortened part whole) :
    Shortened ((frame.withRight right).around part) (frame.around whole)

namespace Shortened

variable {part whole : Syntax}

theorem kind (shorter : Shortened part whole) : part.kind = whole.kind := by cases shorter <;> rfl

theorem role (shorter : Shortened part whole) : part.role = whole.role := by cases shorter <;> rfl

theorem span (shorter : Shortened part whole) : part.start = whole.start ∧ part.stop = whole.stop := by
  cases shorter <;> exact ⟨rfl, rfl⟩

/-- Every child is a child of the whole tree, or what is left of one. -/
theorem exists_child (shorter : Shortened part whole) {child : Syntax} (member : child ∈ part.children) :
    ∃ other ∈ whole.children, Shortened child other := by
  cases shorter with
  | refl => exact ⟨child, member, .refl child⟩
  | @within frame right inner outer fewer _ shorter =>
    simp only [Frame.withRight, Frame.around, Syntax.children, List.mem_append, List.mem_cons] at member ⊢
    rcases member with before | rfl | behind
    · exact ⟨child, .inl before, .refl child⟩
    · exact ⟨outer, .inr (.inl rfl), shorter⟩
    · exact ⟨child, .inr (.inr (fewer behind)), .refl child⟩

theorem exists_head (shorter : Shortened part whole) {first : Syntax} (head : part.children.head? = some first) :
    ∃ other, whole.children.head? = some other ∧ Shortened first other := by
  cases shorter with
  | refl => exact ⟨first, head, .refl first⟩
  | @within frame right inner outer _ _ shorter =>
    simp only [Frame.withRight, Frame.around, Syntax.children] at head ⊢
    cases left : frame.left with
    | nil =>
      rw [left] at head
      obtain rfl := Option.some.inj head
      exact ⟨outer, rfl, shorter⟩
    | cons child rest =>
      rw [left] at head
      exact ⟨first, head, .refl first⟩

theorem exists_child? (shorter : Shortened part whole) (kind : part.kind ≠ .exportStatement) {role : Role}
    {child : Syntax} (found : part.child? role = some child) :
    ∃ other, whole.child? role = some other ∧ Shortened child other := by
  cases shorter with
  | refl => exact ⟨child, found, .refl child⟩
  | @within frame right inner outer _ bare shorter =>
    obtain rfl := bare kind
    simp only [Syntax.child?, Frame.withRight, Frame.around, Syntax.children, List.find?_append] at found ⊢
    cases before : frame.left.find? fun child => child.role == some role with
    | some first =>
      rw [before] at found
      exact ⟨child, found, .refl child⟩
    | none =>
      -- only what the frame is around is left to have the role
      rw [before, List.find?_cons, shorter.role] at found
      rw [List.find?_cons]
      cases fits : outer.role == some role with
      | true =>
        rw [fits] at found
        obtain rfl := Option.some.inj found
        exact ⟨outer, rfl, shorter⟩
      | false =>
        rw [fits] at found
        cases found

structure OfPlace (part whole : PlacedNode) : Prop where
  node : Shortened part.node whole.node
  parent : Option.Rel Shortened part.parent whole.parent

theorem OfPlace.refl (place : PlacedNode) : OfPlace place place where
  node := .refl _
  parent := by
    cases place.parent with
    | none => exact .none
    | some parent => exact .some (.refl parent)

theorem exists_besides {frame other : Frame} (shorter : Shortened (frame.around part) (other.around whole))
    {children : List Syntax} {place : PlacedNode} (member : place ∈ frame.besides part children) :
    ∃ earlier ∈ other.besides whole children, OfPlace place earlier := by
  simp only [Frame.besides, List.mem_flatMap, List.mem_map] at member ⊢
  obtain ⟨_, ⟨child, present, rfl⟩, below⟩ := member
  rw [PlacedNode.preorder_eq] at below
  rcases List.mem_cons.mp below with rfl | below
  · refine ⟨⟨child, some (other.around whole)⟩, ⟨_, ⟨child, present, rfl⟩, ?_⟩, .refl child, .some shorter⟩
    exact PlacedNode.mem_preorder_self _
  · refine ⟨place, ⟨_, ⟨child, present, rfl⟩, ?_⟩, .refl place⟩
    rw [PlacedNode.preorder_eq]
    exact List.mem_cons_of_mem _ below

theorem placeOf_bare (shorter : Shortened part whole) (frames : List Frame) :
    OfPlace (Frame.placeOf (frames.map Frame.bare) part) (Frame.placeOf frames whole) where
  node := shorter
  parent := by
    cases frames with
    | nil => exact .none
    | cons frame outer => exact .some (.within frame (List.nil_subset _) (fun _ => rfl) shorter)

/-- Where what is further out was there before, so was all that is before a shortened tree. -/
theorem exists_before_within {frame : Frame} {right : List Syntax} (fewer : right ⊆ frame.right)
    (bare : frame.kind ≠ .exportStatement → right = []) (shorter : Shortened part whole) {outer : List Frame}
    (further : ∀ place ∈ Frame.before (outer.map Frame.bare) ((frame.withRight right).around part),
      ∃ earlier ∈ Frame.before outer (frame.around whole), OfPlace place earlier)
    {place : PlacedNode} (member : place ∈ Frame.before (frame.withRight right :: outer.map Frame.bare) part) :
    ∃ earlier ∈ Frame.before (frame :: outer) whole, OfPlace place earlier := by
  have around : Shortened ((frame.withRight right).around part) (frame.around whole) :=
    .within frame fewer bare shorter
  rw [Frame.before, List.mem_append, List.mem_cons] at member
  simp only [Frame.before, List.mem_append, List.mem_cons]
  rcases member with outside | rfl | beside
  · obtain ⟨earlier, present, shortens⟩ := further place outside
    exact ⟨earlier, .inl present, shortens⟩
  · exact ⟨_, .inr (.inl rfl), around.placeOf_bare outer⟩
  · obtain ⟨earlier, present, shortens⟩ := around.exists_besides beside
    exact ⟨earlier, .inr (.inr present), shortens⟩

theorem exists_before (shorter : Shortened part whole) (frames : List Frame) :
    ∀ place ∈ Frame.before (frames.map Frame.bare) part,
      ∃ earlier ∈ Frame.before frames whole, OfPlace place earlier := by
  -- from the inside out: the trees grow by a frame each time, and stay shortened
  induction frames generalizing part whole with
  | nil => simp [Frame.before]
  | cons frame outer ih =>
    intro place member
    have around : Shortened (frame.bare.around part) (frame.around whole) :=
      .within frame (List.nil_subset _) (fun _ => rfl) shorter
    exact exists_before_within (List.nil_subset _) (fun _ => rfl) shorter (ih around) member

end Shortened

/-- Whatever is before a tree in frames that are cut was there before they were. -/
theorem Frame.exists_before_cut (frames : List Frame) (tree : Syntax) :
    ∀ place ∈ before (cut frames) tree, ∃ earlier ∈ before frames tree, Shortened.OfPlace place earlier := by
  cases frames with
  | nil => simp [cut, before]
  | cons inner outer =>
    intro place member
    have around : Shortened ((inner.withRight inner.kept).around tree) (inner.around tree) :=
      .within inner inner.kept_subset kept_eq_nil (.refl tree)
    exact Shortened.exists_before_within inner.kept_subset kept_eq_nil (.refl tree) (around.exists_before outer) member

end RouteExplorer.Script
