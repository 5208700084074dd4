import Mathlib.Tactic.FieldSimp
import Mathlib.Tactic.Linarith
import Mathlib.Tactic.Ring
import TmuxLayout.Split

/-!
# Shares of children (SPEC_FULL.md §4.2)

Splitting goes from child to child, and each split is told which part of what is
left the new pane takes. Read over the rationals, without rounding, this leaves every
child the share of its weight in the sum of all weights. The first split is worked out
from the whole sum and the others from the sums of what is left; over the rationals
both are the same.

- `cut`: the parts of a space that is split step by step.
- `newPaneShares`: the shares of the new panes, before they are rounded.
- `newPaneShares_cons_cons`: splitting off the first child leaves the splits of the
  others.
- `cut_newPaneShares`: every child gets its share.
-/

namespace TmuxLayout

/-! ## Cutting -/

/-- The parts of a space that is split step by step: each percentage is what the new
pane takes of what is left, and the last child keeps what remains. -/
def cut (space : Rat) : List Rat → List Rat
  | [] => [space]
  | percent :: percents =>
    (space - space * (percent / 100)) :: cut (space * (percent / 100)) percents

theorem length_cut (space : Rat) (percents : List Rat) :
    (cut space percents).length = percents.length + 1 := by
  induction percents generalizing space with
  | nil => rfl
  | cons percent percents ih => rw [cut, List.length_cons, ih, List.length_cons]

/-- Nothing of the space is lost, whatever the percentages. -/
theorem sum_cut (space : Rat) (percents : List Rat) : (cut space percents).sum = space := by
  induction percents generalizing space with
  | nil => rw [cut, List.sum_singleton]
  | cons percent percents ih =>
    rw [cut, List.sum_cons, ih]
    ring

/-! ## Weights -/

/-- Over the rationals the order of a sum does not matter. -/
theorem total_eq_sum (weights : List Rat) : total weights = weights.sum :=
  List.sum_eq_foldl.symm

/-- The share of a new pane is that of the children behind the split among those that
the split cuts, whichever split it is. -/
theorem newPaneShare_eq (weights : List Rat) (index : Nat) :
    newPaneShare weights (index + 1) =
      (weights.drop (index + 1)).sum / (weights.drop index).sum * 100 := by
  rw [newPaneShare]
  split
  -- the first split takes a weight off the sum, the others leave it out
  · next hfirst =>
    obtain rfl : index = 0 := by omega
    cases weights with
    | nil =>
      show ((0 : Rat) - 0) / 0 * 100 = 0 / 0 * 100
      rw [sub_zero]
    | cons weight weights =>
      have hrest : total (weight :: weights) - firstWeight (weight :: weights) = weights.sum := by
        rw [total_eq_sum, List.sum_cons]
        show weight + weights.sum - weight = weights.sum
        ring
      rw [hrest, total_eq_sum]
      rfl
  · rw [total_eq_sum, total_eq_sum, Nat.add_sub_cancel]
    rfl

/-- The shares of the new panes of all splits, before they are rounded. -/
def newPaneShares (weights : List Rat) : List Rat :=
  (List.range (weights.length - 1)).map fun index => newPaneShare weights (index + 1)

/-- The first share is that of all weights but the first; the rest are those of the rest. -/
theorem newPaneShares_cons_cons (first second : Rat) (weights : List Rat) :
    newPaneShares (first :: second :: weights) =
      (second :: weights).sum / (first :: second :: weights).sum * 100 ::
        newPaneShares (second :: weights) := by
  have hlength : (first :: second :: weights).length - 1 = (second :: weights).length - 1 + 1 := rfl
  rw [newPaneShares, hlength, List.range_succ_eq_map, List.map_cons, List.map_map,
    newPaneShare_eq, newPaneShares]
  congr 1
  refine List.map_congr_left fun index _ => ?_
  show newPaneShare _ (index + 1 + 1) = _
  rw [newPaneShare_eq, newPaneShare_eq]
  rfl

/-! ## Shares -/

/-- A space of any size is divided by the weights. -/
theorem cut_newPaneShares_eq (space first : Rat) (weights : List Rat)
    (hsums : ∀ index < (first :: weights).length, ((first :: weights).drop index).sum ≠ 0) :
    cut space (newPaneShares (first :: weights)) =
      (first :: weights).map fun weight => space * (weight / (first :: weights).sum) := by
  induction weights generalizing space first with
  | nil =>
    have hfirst : first ≠ 0 := by
      have hsum := hsums 0 (by simp)
      rwa [List.drop_zero, List.sum_singleton] at hsum
    show [space] = [space * (first / [first].sum)]
    rw [List.sum_singleton, div_self hfirst, mul_one]
  | cons second weights ih =>
    have hall : (first :: second :: weights).sum ≠ 0 := hsums 0 (by simp)
    have hrest : (second :: weights).sum ≠ 0 := hsums 1 (by simp)
    have hsums' (index : Nat) (hindex : index < (second :: weights).length) :
        ((second :: weights).drop index).sum ≠ 0 :=
      hsums (index + 1) (by simpa using hindex)
    rw [newPaneShares_cons_cons, cut, ih _ _ hsums']
    refine congrArg₂ List.cons ?_ (List.map_congr_left fun weight _ => ?_)
    · -- the first child keeps what the others do not get
      have hsum : (first :: second :: weights).sum = first + (second :: weights).sum :=
        List.sum_cons
      rw [hsum] at hall ⊢
      field_simp
      ring
    · field_simp

/-- **Every child gets the share of its weight.** When no sum of the weights from some
child on is zero, splitting a space of size one by the shares of the new panes leaves
each child its weight over the sum of all weights, and all of the space is given away.
The first split goes by the rule of the others. -/
theorem cut_newPaneShares (weights : List Rat) (hne : weights ≠ [])
    (hsums : ∀ index < weights.length, (weights.drop index).sum ≠ 0) :
    cut 1 (newPaneShares weights) = weights.map (· / weights.sum) ∧
      (cut 1 (newPaneShares weights)).sum = 1 ∧
      ∀ index, newPaneShare weights (index + 1) =
        (weights.drop (index + 1)).sum / (weights.drop index).sum * 100 := by
  obtain ⟨first, rest, rfl⟩ := List.exists_cons_of_ne_nil hne
  refine ⟨?_, sum_cut 1 _, newPaneShare_eq _⟩
  rw [cut_newPaneShares_eq 1 first rest hsums]
  exact List.map_congr_left fun weight _ => one_mul _

theorem cut_newPaneShares_of_three :
    ([1, 2, -5] : List Rat) ≠ [] ∧
      (∀ index < ([1, 2, -5] : List Rat).length,
        (([1, 2, -5] : List Rat).drop index).sum ≠ 0) ∧
      cut 1 (newPaneShares [1, 2, -5]) = [-1 / 2, -1, 5 / 2] := by
  have hsums : ∀ index < ([1, 2, -5] : List Rat).length,
      (([1, 2, -5] : List Rat).drop index).sum ≠ 0 := by decide +kernel
  refine ⟨List.cons_ne_nil _ _, hsums, ?_⟩
  rw [(cut_newPaneShares [1, 2, -5] (List.cons_ne_nil _ _) hsums).1]
  decide +kernel

end TmuxLayout
