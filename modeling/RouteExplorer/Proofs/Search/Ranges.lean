import Mathlib.Data.List.Chain
import Mathlib.Data.List.Sort
import RouteExplorer.Search.Highlight

/-!
The ranges that are drawn for matched positions. Among all lists of ranges there is one that begins and ends each
range at a match, has every match in one range, leaves two characters or more between ranges and no two next to each
other unmatched within one; it is the one that is drawn.
-/
namespace RouteExplorer.Search

theorem mem_dropRepeats {position : Nat} (positions : List Nat) :
    position ∈ dropRepeats positions ↔ position ∈ positions := by
  fun_induction dropRepeats positions with
  | case1 => rfl
  | case2 => rfl
  | case3 second rest ih => rw [ih, List.mem_cons (b := second) (l := second :: rest)]; simp
  | case4 first second rest _ ih => rw [List.mem_cons, List.mem_cons (b := first), ih]

theorem pairwise_dropRepeats {positions : List Nat} (ordered : positions.Pairwise (· ≤ ·)) :
    (dropRepeats positions).Pairwise (· < ·) := by
  fun_induction dropRepeats positions with
  | case1 => exact .nil
  | case2 => exact List.pairwise_singleton _ _
  | case3 second rest ih => exact ih ordered.of_cons
  | case4 first second rest different ih =>
    refine .cons (fun position member => ?_) (ih ordered.of_cons)
    obtain ⟨atMost, later⟩ := List.pairwise_cons.mp ordered
    have next : first ≤ second := atMost second List.mem_cons_self
    have onwards := (List.pairwise_cons.mp later).1
    rcases List.mem_cons.mp ((mem_dropRepeats _).mp member) with rfl | further
    · omega
    · have := onwards position further
      omega

theorem mem_orderedPositions {position : Nat} (positions : List Nat) :
    position ∈ orderedPositions positions ↔ position ∈ positions := by
  rw [orderedPositions, mem_dropRepeats, List.mem_mergeSort]

theorem pairwise_orderedPositions (positions : List Nat) : (orderedPositions positions).Pairwise (· < ·) :=
  pairwise_dropRepeats (List.pairwise_mergeSort' (· ≤ ·) positions)

theorem dropRepeats_of_pairwise {positions : List Nat} (ascending : positions.Pairwise (· < ·)) :
    dropRepeats positions = positions := by
  induction ascending with
  | nil => rfl
  | @cons first rest before _ ih =>
    cases rest with
    | nil => rfl
    | cons second others =>
      have different : first ≠ second := Nat.ne_of_lt (before second List.mem_cons_self)
      rw [dropRepeats, if_neg different, ih]

theorem length_orderedPositions {positions : List Nat} (distinct : positions.Nodup) :
    (orderedPositions positions).length = positions.length := by
  let sorted := positions.mergeSort fun left right => left ≤ right
  have permuted : sorted.Perm positions := List.mergeSort_perm _ _
  have ordered : sorted.Pairwise (· ≤ ·) := List.pairwise_mergeSort' (· ≤ ·) positions
  have ascending : sorted.Pairwise (· < ·) :=
    ordered.imp₂ (fun _ _ before different => Nat.lt_of_le_of_ne before different)
      (permuted.nodup_iff.mpr distinct)
  rw [orderedPositions, dropRepeats_of_pairwise ascending, permuted.length_eq]

def HighlightRange.Holds (range : HighlightRange) (position : Nat) : Prop :=
  range.start ≤ position ∧ position < range.stop

instance (range : HighlightRange) (position : Nat) : Decidable (range.Holds position) :=
  inferInstanceAs (Decidable (_ ∧ _))

/-- Ranges from match to match, with each match in one of them. Two unmatched characters next to each other end a
range, and a single one does not. -/
structure Outlines (matched : Nat → Prop) (ranges : List HighlightRange) : Prop where
  filled : ∀ range ∈ ranges, range.start < range.stop
  starts : ∀ range ∈ ranges, matched range.start
  stops : ∀ range ∈ ranges, matched (range.stop - 1)
  once : ∀ position, matched position → ranges.countP (fun range => range.Holds position) = 1
  apart : ranges.IsChain fun range next => range.stop + 2 ≤ next.start
  dense : ∀ range ∈ ranges, ∀ position, range.start ≤ position → position + 1 < range.stop →
    matched position ∨ matched (position + 1)

namespace Outlines

variable {matched : Nat → Prop} {range : HighlightRange} {rest : List HighlightRange}

/-- All further ranges are apart from the first one, not only the next. -/
theorem apart_first (outlines : Outlines matched (range :: rest)) :
    ∀ next ∈ rest, range.stop + 2 ≤ next.start := by
  have filled := outlines.filled
  have apart := outlines.apart
  clear outlines
  induction rest generalizing range with
  | nil => simp
  | cons second others ih =>
    obtain ⟨gap, onwards⟩ := List.isChain_cons_cons.mp apart
    have second_filled := filled second (by simp)
    intro next member
    rcases List.mem_cons.mp member with rfl | further
    · exact gap
    · have later := ih (fun range member => filled range (List.mem_cons_of_mem _ member)) onwards next further
      omega

/-- A match is in the first range or two characters or more behind it. -/
theorem holds_or_behind (outlines : Outlines matched (range :: rest)) {position : Nat} (present : matched position) :
    range.Holds position ∨ range.stop + 2 ≤ position := by
  have somewhere : 0 < (range :: rest).countP fun range => range.Holds position := by
    rw [outlines.once position present]
    exact Nat.one_pos
  obtain ⟨holder, member, holds⟩ := List.countP_pos_iff.mp somewhere
  have inside : holder.Holds position := of_decide_eq_true holds
  rcases List.mem_cons.mp member with rfl | later
  · exact .inl inside
  · exact .inr (Nat.le_trans (outlines.apart_first holder later) inside.1)

theorem tail (outlines : Outlines matched (range :: rest)) :
    Outlines (fun position => matched position ∧ range.stop ≤ position) rest where
  filled next member := outlines.filled next (List.mem_cons_of_mem _ member)
  starts next member := by
    have behind := outlines.apart_first next member
    exact ⟨outlines.starts next (List.mem_cons_of_mem _ member), by omega⟩
  stops next member := by
    have behind := outlines.apart_first next member
    have filled := outlines.filled next (List.mem_cons_of_mem _ member)
    exact ⟨outlines.stops next (List.mem_cons_of_mem _ member), by omega⟩
  once position present := by
    have outside : ¬range.Holds position := fun holds => Nat.not_lt.mpr present.2 holds.2
    simpa [List.countP_cons, outside] using outlines.once position present.1
  apart := (List.isChain_cons.mp outlines.apart).2
  dense next member position from_start before_stop := by
    have behind := outlines.apart_first next member
    exact (outlines.dense next (List.mem_cons_of_mem _ member) position from_start before_stop).imp
      (⟨·, by omega⟩) (⟨·, by omega⟩)

/-- One more range in front, when what it does not hold is behind it and outlined. -/
theorem cons (single : Outlines (fun position => matched position ∧ position < range.stop) [range])
    (outlines : Outlines (fun position => matched position ∧ range.stop ≤ position) rest)
    (gap : ∀ next ∈ rest.head?, range.stop + 2 ≤ next.start) : Outlines matched (range :: rest) where
  filled := List.forall_mem_cons.mpr ⟨single.filled range (by simp), outlines.filled⟩
  starts := List.forall_mem_cons.mpr
    ⟨(single.starts range (by simp)).1, fun next member => (outlines.starts next member).1⟩
  stops := List.forall_mem_cons.mpr
    ⟨(single.stops range (by simp)).1, fun next member => (outlines.stops next member).1⟩
  once position present := by
    by_cases early : position < range.stop
    · have alone := single.once position ⟨present, early⟩
      have nowhere : rest.countP (fun next => next.Holds position) = 0 := by
        refine List.countP_eq_zero.mpr fun next member holds => ?_
        have inside : next.Holds position := of_decide_eq_true holds
        have behind := (outlines.starts next member).2
        have from_start := inside.1
        omega
      rw [List.countP_cons, nowhere]
      simpa [List.countP_cons] using alone
    · have outside : ¬range.Holds position := fun holds => early holds.2
      have later := outlines.once position ⟨present, Nat.le_of_not_lt early⟩
      simpa [List.countP_cons, outside] using later
  apart := outlines.apart.cons gap
  dense := List.forall_mem_cons.mpr
    ⟨fun position from_start before_stop =>
        (single.dense range (by simp) position from_start before_stop).imp And.left And.left,
      fun next member position from_start before_stop =>
        (outlines.dense next member position from_start before_stop).imp And.left And.left⟩

variable {other : HighlightRange} {others : List HighlightRange}

theorem start_le (outlines : Outlines matched (range :: rest)) (second : Outlines matched (other :: others)) :
    range.start ≤ other.start := by
  have filled := outlines.filled range (by simp)
  rcases outlines.holds_or_behind (second.starts other (by simp)) with inside | behind
  · exact inside.1
  · omega

/-- A first range does not reach beyond another one: the two unmatched characters behind that one would lie
within it. -/
theorem stop_le (outlines : Outlines matched (range :: rest)) (second : Outlines matched (other :: others)) :
    other.stop ≤ range.stop := by
  by_contra beyond
  have filled := outlines.filled range (by simp)
  have from_start := second.start_le outlines
  have unmatched (position : Nat) (low : range.stop ≤ position) (high : position < range.stop + 2) :
      ¬matched position := by
    intro present
    rcases outlines.holds_or_behind present with inside | behind
    · exact Nat.not_lt.mpr low inside.2
    · omega
  have last := second.stops other (by simp)
  have far : range.stop + 2 ≤ other.stop - 1 := by
    by_contra near
    exact unmatched _ (by omega) (by omega) last
  rcases second.dense other (by simp) range.stop (by omega) (by omega) with first | next
  · exact unmatched _ (by omega) (by omega) first
  · exact unmatched _ (by omega) (by omega) next

theorem unique {left right : List HighlightRange} (first : Outlines matched left) (second : Outlines matched right) :
    left = right := by
  induction left generalizing matched right with
  | nil =>
    cases right with
    | nil => rfl
    | cons other others => exact absurd (first.once _ (second.starts other (by simp))) (by simp)
  | cons range rest ih =>
    cases right with
    | nil => exact absurd (second.once _ (first.starts range (by simp))) (by simp)
    | cons other others =>
      have starts : range.start = other.start := Nat.le_antisymm (first.start_le second) (second.start_le first)
      have stops : range.stop = other.stop := Nat.le_antisymm (second.stop_le first) (first.stop_le second)
      obtain rfl : range = other := by
        cases range
        cases other
        simp_all
      rw [ih first.tail second.tail]

end Outlines

theorem outlines_singleton_iff {matched : Nat → Prop} {range : HighlightRange} : Outlines matched [range] ↔
    range.start < range.stop ∧ matched range.start ∧ matched (range.stop - 1) ∧
      (∀ position, matched position → range.Holds position) ∧
      ∀ position, range.start ≤ position → position + 1 < range.stop →
        matched position ∨ matched (position + 1) := by
  constructor
  · intro outlines
    refine ⟨outlines.filled range (by simp), outlines.starts range (by simp), outlines.stops range (by simp),
      fun position present => ?_, outlines.dense range (by simp)⟩
    simpa [List.countP_cons] using outlines.once position present
  · rintro ⟨filled, starts, stops, holds, dense⟩
    exact ⟨by simpa using filled, by simpa using starts, by simpa using stops,
      fun position present => by simp [holds position present], .singleton range, by simpa using dense⟩

theorem start_of_mem_head?_rangesFrom {current next : HighlightRange} (positions : List Nat)
    (member : next ∈ (rangesFrom current positions).head?) : next.start = current.start := by
  fun_induction rangesFrom current positions with
  | case1 => simp_all
  | case2 current position rest _ ih => exact ih member
  | case3 => simp_all

theorem outlines_single (position : Nat) : Outlines (· = position) [⟨position, position + 1⟩] := by
  refine outlines_singleton_iff.mpr ⟨by simp, rfl, by simp, ?_, fun other from_start before_stop => .inl ?_⟩
  · rintro _ rfl
    exact ⟨Nat.le_refl _, Nat.lt_succ_self _⟩
  · dsimp only at from_start before_stop
    omega

/-- A match next to a range, or behind a single unmatched character, makes the range longer. -/
theorem Outlines.extend {matched : Nat → Prop} {current : HighlightRange} (outlines : Outlines matched [current])
    {next : Nat} (behind : current.stop ≤ next) (near : next ≤ current.stop + 1) :
    Outlines (fun position => matched position ∨ position = next) [⟨current.start, next + 1⟩] := by
  obtain ⟨filled, starts, stops, holds, dense⟩ := outlines_singleton_iff.mp outlines
  refine outlines_singleton_iff.mpr ⟨?_, .inl starts, .inr rfl, ?_, fun position from_start before_stop => ?_⟩
  · dsimp only
    omega
  · rintro position (present | rfl)
    · have inside := holds position present
      exact ⟨inside.1, Nat.lt_succ_of_lt (Nat.lt_of_lt_of_le inside.2 behind)⟩
    · exact ⟨by dsimp only; omega, Nat.lt_succ_self _⟩
  · dsimp only at from_start before_stop
    -- what was within the range, its last match, and the one character that may be left out
    rcases Nat.lt_trichotomy (position + 1) current.stop with early | last | late
    · exact (dense position from_start early).imp .inl .inl
    · exact .inl (.inl (by rwa [← last, Nat.add_sub_cancel] at stops))
    · exact .inr (.inr (by omega))

/-- Behind an open range, ascending positions are outlined together with those that the range outlines. -/
theorem outlines_rangesFrom {matched : Nat → Prop} {current : HighlightRange} {positions : List Nat}
    (outlines : Outlines matched [current]) (ascending : positions.Pairwise (· < ·))
    (behind : ∀ position ∈ positions, current.stop ≤ position) :
    Outlines (fun position => matched position ∨ position ∈ positions) (rangesFrom current positions) := by
  induction positions generalizing matched current with
  | nil => simpa [rangesFrom] using outlines
  | cons next rest ih =>
    obtain ⟨before, onwards⟩ := List.pairwise_cons.mp ascending
    rw [rangesFrom]
    split
    · next near =>
      have longer := outlines.extend (behind next (by simp)) near
      simpa [or_assoc] using ih longer onwards before
    · next far =>
      have holds := (outlines_singleton_iff.mp outlines).2.2.2.1
      have later := ih (outlines_single next) onwards before
      have first (position : Nat) : (matched position ∨ position ∈ next :: rest) ∧ position < current.stop ↔
          matched position := by
        refine ⟨?_, fun present => ⟨.inl present, (holds position present).2⟩⟩
        rintro ⟨present | member, early⟩
        · exact present
        · exact absurd early (Nat.not_lt.mpr (behind position member))
      have others (position : Nat) :
          (matched position ∨ position ∈ next :: rest) ∧ current.stop ≤ position ↔
            position = next ∨ position ∈ rest := by
        rw [List.mem_cons]
        refine ⟨?_, fun member => ⟨.inr member, behind position (List.mem_cons.mpr member)⟩⟩
        rintro ⟨present | member, late⟩
        · exact absurd (holds position present).2 (Nat.not_lt.mpr late)
        · exact member
      refine .cons (by simpa only [first] using outlines) (by simpa only [others] using later) fun range member => ?_
      rw [start_of_mem_head?_rangesFrom rest member]
      dsimp only
      omega

theorem outlines_highlightRanges {positions : List Nat} (ascending : positions.Pairwise (· < ·)) :
    Outlines (· ∈ positions) (highlightRanges positions) := by
  cases positions with
  | nil => exact ⟨by simp [highlightRanges], by simp [highlightRanges], by simp [highlightRanges], by simp,
      .nil, by simp [highlightRanges]⟩
  | cons position rest =>
    obtain ⟨before, onwards⟩ := List.pairwise_cons.mp ascending
    simpa [highlightRanges] using outlines_rangesFrom (outlines_single position) onwards before

/-- Matched positions are put into ascending order, each once, and what is drawn for them is the one list of ranges
that outlines them. -/
theorem outlines_positions_iff (positions : List Nat) :
    (orderedPositions positions).Pairwise (· < ·) ∧
      (∀ position, position ∈ orderedPositions positions ↔ position ∈ positions) ∧
      ∀ ranges, Outlines (· ∈ positions) ranges ↔ ranges = highlightRanges (orderedPositions positions) := by
  have ascending := pairwise_orderedPositions positions
  have drawn := outlines_highlightRanges ascending
  simp only [mem_orderedPositions] at drawn
  refine ⟨ascending, fun _ => mem_orderedPositions positions, fun ranges => ⟨fun outlines => ?_, ?_⟩⟩
  · exact outlines.unique drawn
  · rintro rfl
    exact drawn

/-- A single character between two matches is drawn with them, two are not. -/
example : highlightRanges [0, 2, 5, 7] = [⟨0, 3⟩, ⟨5, 8⟩] := by decide

end RouteExplorer.Search
