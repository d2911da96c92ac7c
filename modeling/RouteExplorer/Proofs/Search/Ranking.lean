import Mathlib.Data.List.Perm.Basic
import Mathlib.Order.Lattice

/-!
Rankings: a list in descending order of a key, with equal keys in the order they had. There is exactly one
ranking of a list, so whatever keeps these properties keeps the ranking.
-/
namespace RouteExplorer.Search

universe u v
variable {α : Type u} {κ : Type v} [LinearOrder κ] {key : α → κ} {list ranked : List α}

/-- A list in descending order of a key, what has equal keys in the order of the list. -/
structure RankedBy (key : α → κ) (list ranked : List α) : Prop where
  perm : ranked.Perm list
  descending : ranked.Pairwise fun left right => key right ≤ key left
  stable : ∀ value, ranked.filter (fun entry => key entry = value) = list.filter fun entry => key entry = value

private theorem mem_iff_of_agree {first second : List α}
    (agree : ∀ value, first.filter (fun entry => key entry = value) =
      second.filter fun entry => key entry = value) (entry : α) : entry ∈ first ↔ entry ∈ second := by
  simpa using congrArg (entry ∈ ·) (agree (key entry))

private theorem key_le_head {head entry : α} {rest : List α}
    (descending : (head :: rest).Pairwise fun left right => key right ≤ key left)
    (member : entry ∈ head :: rest) : key entry ≤ key head := by
  rcases List.mem_cons.mp member with same | later
  · exact same ▸ le_rfl
  · exact List.rel_of_pairwise_cons descending later

/-- Two lists in descending order are equal when they agree for every key. -/
private theorem eq_of_descending {first second : List α}
    (first_descends : first.Pairwise fun left right => key right ≤ key left)
    (second_descends : second.Pairwise fun left right => key right ≤ key left)
    (agree : ∀ value, first.filter (fun entry => key entry = value) =
      second.filter fun entry => key entry = value) : first = second := by
  induction first generalizing second with
  | nil =>
    apply Eq.symm
    apply List.eq_nil_iff_forall_not_mem.mpr
    intro entry member
    simpa using (mem_iff_of_agree agree entry).mpr member
  | cons head rest ih =>
    cases second with
    | nil => simpa using (mem_iff_of_agree agree head).mp (by simp)
    | cons other others =>
      -- each head is in the other list, so neither has the lesser key
      have le_other := key_le_head second_descends ((mem_iff_of_agree agree head).mp (by simp))
      have le_head := key_le_head first_descends ((mem_iff_of_agree agree other).mpr (by simp))
      have same : head = other := by
        have heads := agree (key head)
        simp [le_antisymm le_head le_other] at heads
        exact heads.1
      subst same
      have agree_later (value : κ) : rest.filter (fun entry => key entry = value) =
          others.filter fun entry => key entry = value := by
        have both := agree value
        by_cases found : key head = value <;> simpa [found] using both
      rw [ih first_descends.of_cons second_descends.of_cons agree_later]

namespace RankedBy

/-- A list has one ranking only. -/
theorem unique {other : List α} (ranks : RankedBy key list ranked) (too : RankedBy key list other) :
    ranked = other :=
  eq_of_descending ranks.descending too.descending fun value =>
    (ranks.stable value).trans (too.stable value).symm

theorem filter (ranks : RankedBy key list ranked) (keeps : α → Bool) :
    RankedBy key (list.filter keeps) (ranked.filter keeps) where
  perm := ranks.perm.filter keeps
  descending := ranks.descending.filter keeps
  stable value := by
    rw [List.filter_comm, ranks.stable value, List.filter_comm]

theorem map {β : Type*} {image : α → β} {key : β → κ}
    (ranks : RankedBy (fun entry => key (image entry)) list ranked) :
    RankedBy key (list.map image) (ranked.map image) where
  perm := ranks.perm.map image
  descending := List.pairwise_map.mpr ranks.descending
  stable value := by
    rw [List.filter_map, List.filter_map]
    exact congrArg (List.map image) (ranks.stable value)

theorem eq_of_forall_key (ranks : RankedBy key list ranked) (value : κ)
    (level : ∀ entry ∈ list, key entry = value) : ranked = list := by
  have kept : list.filter (fun entry => key entry = value) = list :=
    List.filter_eq_self.mpr fun entry member => by simpa using level entry member
  have all : ranked.filter (fun entry => key entry = value) = ranked :=
    List.filter_eq_self.mpr fun entry member => by simpa using level entry (ranks.perm.subset member)
  rw [← all, ranks.stable value, kept]

/-- Whatever holds along a list holds along its ranking between entries of one key. -/
theorem pairwise (ranks : RankedBy key list ranked) {along : α → α → Prop} (ordered : list.Pairwise along) :
    ranked.Pairwise fun left right => key right < key left ∨ key left = key right ∧ along left right := by
  apply List.pairwise_iff_forall_sublist.mpr
  intro left right within
  rcases lt_or_eq_of_le (List.pairwise_iff_forall_sublist.mp ranks.descending within) with less | same
  · exact .inl less
  · -- both are found among the entries of their key, where the list has them in this order
    have among := within.filter fun entry => decide (key entry = key left)
    rw [ranks.stable] at among
    simp only [List.filter_cons, same, decide_true, ↓reduceIte, List.filter_nil] at among
    exact .inr ⟨same.symm, List.pairwise_iff_forall_sublist.mp ordered (among.trans List.filter_sublist)⟩

end RankedBy

/-- Sorting by a comparison of keys ranks a list. -/
theorem rankedBy_mergeSort {atLeast : α → α → Bool}
    (compares : ∀ left right, atLeast left right = true ↔ key right ≤ key left) (list : List α) :
    RankedBy key list (list.mergeSort atLeast) := by
  have transitive (first second third : α) (before : atLeast first second = true)
      (after : atLeast second third = true) : atLeast first third = true :=
    (compares _ _).mpr (le_trans ((compares _ _).mp after) ((compares _ _).mp before))
  have total (left right : α) : (atLeast left right || atLeast right left) = true := by
    simpa only [Bool.or_eq_true, compares] using le_total (key right) (key left)
  have permuted := List.mergeSort_perm list atLeast
  refine ⟨permuted, ?_, fun value => ?_⟩
  · exact (List.pairwise_mergeSort transitive total list).imp fun holds => (compares _ _).mp holds
  · -- what has the key is in order already, so sorting leaves it as a sublist, and there is no more of it
    let part := list.filter fun entry => key entry = value
    have level {entry : α} (member : entry ∈ part) : key entry = value := by
      simpa [part] using (List.mem_filter.mp member).2
    have in_order : part.Pairwise fun left right => atLeast left right = true := by
      apply List.pairwise_of_forall_mem_list
      intro left left_member right right_member
      exact (compares left right).mpr (by rw [level left_member, level right_member])
    have kept : part.Sublist (list.mergeSort atLeast) :=
      List.sublist_mergeSort transitive total in_order List.filter_sublist
    have within : part.Sublist ((list.mergeSort atLeast).filter fun entry => key entry = value) := by
      simpa only [part, List.filter_filter, Bool.and_self] using
        kept.filter fun entry => decide (key entry = value)
    exact (within.eq_of_length (permuted.filter _).length_eq.symm).symm

theorem exists_ranking (key : α → κ) (list : List α) : ∃ ranked, RankedBy key list ranked :=
  ⟨_, rankedBy_mergeSort (fun _ _ => decide_eq_true_iff) list⟩

end RouteExplorer.Search
