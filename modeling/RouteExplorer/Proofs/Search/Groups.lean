import Mathlib.Algebra.Order.Field.Rat
import Mathlib.Data.List.Forall2
import RouteExplorer.Proofs.Search.Ranking
import RouteExplorer.Search.Grouping

namespace RouteExplorer.Search

namespace MeanScore

/-- The exact quotient that a mean is; no summands count as zero. -/
def quotient (score : MeanScore) : ℚ := score.total / (max score.count 1 : ℕ)

private theorem divisor_pos (score : MeanScore) : (0 : ℚ) < (max score.count 1 : ℕ) :=
  Nat.cast_pos.mpr (Nat.lt_of_lt_of_le Nat.zero_lt_one (Nat.le_max_right score.count 1))

theorem atLeast_iff (left right : MeanScore) :
    left.atLeast right = true ↔ right.quotient ≤ left.quotient := by
  rw [atLeast, decide_eq_true_iff, quotient, quotient, div_le_div_iff₀ right.divisor_pos left.divisor_pos]
  exact_mod_cast Iff.rfl

theorem quotient_ofMatches (matched : List MatchedRoute) :
    (ofMatches matched).quotient = (matched.map MatchedRoute.matchedCount).sum / matched.length := by
  have total : (ofMatches matched).total = (matched.map MatchedRoute.matchedCount).sum := rfl
  cases matched with
  | nil => simp [quotient, total]
  | cons found rest =>
    have count : max (ofMatches (found :: rest)).count 1 = (found :: rest).length :=
      Nat.max_eq_left (Nat.le_add_left 1 rest.length)
    rw [quotient, total, count]

end MeanScore

/-- The controllers whose names own a match. -/
def owners (controllers : List Controller) (matched : List MatchedRoute) : List Controller :=
  controllers.filter fun controller => ∃ found ∈ matched, found.route.ownerName = controller.name

/-- A group shows a controller with the matches that its name owns, in the order in which they were found,
and is scored by the mean number of their matched characters. -/
structure OwnerGroup.Gathers (grouping : Grouping) (matched : List MatchedRoute) (group : OwnerGroup)
    (controller : Controller) : Prop where
  ownerName : group.ownerName = controller.name
  basePath : group.basePath = controller.basePath
  sourceFile : group.sourceFile = controller.sourceFile
  totalRoutes : group.totalRoutes = controller.routes.length
  isExpanded : group.isExpanded = grouping.isExpanded controller.name
  matchedRoutes : group.matchedRoutes = matched.filter fun found => found.route.ownerName = controller.name
  score : group.score.quotient =
    (group.matchedRoutes.map MatchedRoute.matchedCount).sum / group.matchedRoutes.length

namespace Grouping

def groupOf (grouping : Grouping) (matched : List MatchedRoute) (controller : Controller) : OwnerGroup :=
  grouping.group controller (ownedBy controller.name matched)
    (MeanScore.ofMatches (ownedBy controller.name matched))

theorem gathers_groupOf (grouping : Grouping) (matched : List MatchedRoute) (controller : Controller) :
    (grouping.groupOf matched controller).Gathers grouping matched controller where
  ownerName := rfl
  basePath := rfl
  sourceFile := rfl
  totalRoutes := rfl
  isExpanded := rfl
  matchedRoutes := List.filter_congr fun _ _ => beq_eq_decide _ _
  score := MeanScore.quotient_ofMatches _

theorem forall₂_groupOf (grouping : Grouping) (matched : List MatchedRoute) (controllers : List Controller) :
    List.Forall₂ (OwnerGroup.Gathers grouping matched) (controllers.map (grouping.groupOf matched))
      controllers :=
  List.forall₂_map_left_iff.mpr <|
    List.forall₂_same.mpr fun controller _ => grouping.gathers_groupOf matched controller

theorem filter_allGroups (grouping : Grouping) (matched : List MatchedRoute) :
    (grouping.allGroups matched).filter (fun group => !group.matchedRoutes.isEmpty) =
      (owners grouping.controllers matched).map (grouping.groupOf matched) := by
  rw [allGroups, List.filter_map]
  refine congrArg (List.map _) (List.filter_congr fun controller _ => ?_)
  -- a group is empty exactly when no match has its owner's name
  apply Bool.eq_iff_iff.mpr
  simp [group, ownedBy]

theorem ranked_rankedGroups (grouping : Grouping) (matched : List MatchedRoute) {query : String}
    (asked : Text.isAllBlank query = false) :
    RankedBy (fun group => group.score.quotient)
      ((owners grouping.controllers matched).map (grouping.groupOf matched))
      (grouping.rankedGroups matched query) := by
  rw [← filter_allGroups]
  simp only [rankedGroups, asked, Bool.false_eq_true, ↓reduceIte]
  exact rankedBy_mergeSort (fun left right => left.score.atLeast_iff right.score) _

/-- A result lists the matches as they are. For a query its groups are the ranking by score of the groups
that gather, in the order of the controllers, for those whose names own a match; without one they gather for
all controllers, in their order. -/
theorem result_gathers (grouping : Grouping) (matched : List MatchedRoute) (query : String) :
    (grouping.result matched query).flat = matched ∧
      (Text.isAllBlank query = false → ∃ groups,
        List.Forall₂ (OwnerGroup.Gathers grouping matched) groups (owners grouping.controllers matched) ∧
          RankedBy (fun group => group.score.quotient) groups (grouping.result matched query).grouped) ∧
      (Text.isAllBlank query = true →
        List.Forall₂ (OwnerGroup.Gathers grouping matched) (grouping.result matched query).grouped
          grouping.controllers) := by
  refine ⟨rfl, fun asked => ?_, fun blank => ?_⟩
  · exact ⟨_, grouping.forall₂_groupOf matched _, grouping.ranked_rankedGroups matched asked⟩
  · have all : (grouping.result matched query).grouped = grouping.controllers.map (grouping.groupOf matched) := by
      change grouping.rankedGroups matched query = _
      rw [rankedGroups, if_pos blank]
      rfl
    rw [all]
    exact grouping.forall₂_groupOf matched _

def ownedRoute (owner path : String) : Route := ⟨"GET", "", path, ⟨owner⟩, 1, 0, owner, "list", [], []⟩

def petsGrouping : Grouping :=
  toggleOwner (ofControllers [
    ⟨"Cats", "cats", ⟨"cats.ts"⟩, [ownedRoute "Cats" "/cats"]⟩, ⟨"Newts", "newts", ⟨"newts.ts"⟩, []⟩,
    ⟨"Dogs", "dogs", ⟨"dogs.ts"⟩, [ownedRoute "Dogs" "/dogs"]⟩, ⟨"Birds", "birds", ⟨"birds.ts"⟩, []⟩]) "Dogs"

def petsMatches : List MatchedRoute :=
  [⟨ownedRoute "Dogs" "/dogs", [], 2⟩, ⟨ownedRoute "Cats" "/cats", [], 3⟩, ⟨ownedRoute "Nobody" "/", [], 9⟩,
    ⟨ownedRoute "Dogs" "/dogs/food", [], 4⟩, ⟨ownedRoute "Birds" "/birds", [], 5⟩]

theorem pets_gathered :
    Text.isAllBlank "b" = false ∧ Text.isAllBlank " " = true ∧
      (petsGrouping.result petsMatches "b").grouped.map OwnerGroup.ownerName = ["Birds", "Cats", "Dogs"] ∧
      (∃ groups,
        List.Forall₂ (OwnerGroup.Gathers petsGrouping petsMatches) groups
            (owners petsGrouping.controllers petsMatches) ∧
          RankedBy (fun group => group.score.quotient) groups (petsGrouping.result petsMatches "b").grouped) ∧
      List.Forall₂ (OwnerGroup.Gathers petsGrouping petsMatches) (petsGrouping.result petsMatches " ").grouped
        petsGrouping.controllers := by
  have asked : Text.isAllBlank "b" = false := by decide
  have blank : Text.isAllBlank " " = true := by decide
  have names : (petsGrouping.result petsMatches "b").grouped.map OwnerGroup.ownerName =
      ["Birds", "Cats", "Dogs"] := by
    rw [result, rankedGroups, if_neg (by simp [asked])]
    simp [petsGrouping, petsMatches, ofControllers, sync, toggleOwner, allGroups, group, ownedBy, ownedRoute,
      MeanScore.ofMatches, MeanScore.atLeast, List.mergeSort, List.MergeSort.Internal.splitInTwo]
  obtain ⟨_, ranked, _⟩ := petsGrouping.result_gathers petsMatches "b"
  obtain ⟨_, _, unranked⟩ := petsGrouping.result_gathers petsMatches " "
  exact ⟨asked, blank, names, ranked asked, unranked blank⟩

end Grouping

end RouteExplorer.Search
