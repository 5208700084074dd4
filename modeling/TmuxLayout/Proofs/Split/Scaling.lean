import Mathlib.Algebra.BigOperators.Ring.List
import TmuxLayout.Proofs.Split.Rounding

/-!
# Scaled weights (SPEC_FULL.md §4.2)

Weights of children count only against each other: a share is a quotient of two sums,
and a common factor goes through both sums and cancels. Some sum may be zero, and then
the share is undefined, with the factor and without it. Without a ratio all weights are
one, and so the percentages are those of any equal weights.

- `Weight (Option Rat)`: rational numbers, with a quotient by zero undefined.
- `ratioOf`: rational weights as a ratio.
- `splitPercentages_ratioOf`: the percentages of rational weights.
- `newPaneShare_scale`: a common factor does not change a share.
- `newPaneShare_replicate`: the shares of equal weights.
- `splitPercentages_scale`: only relative weights matter.
-/

namespace TmuxLayout

/-! ## Undefined quotients -/

/-- Rational numbers, with a quotient by zero undefined, and with it all that is worked
out from it. -/
instance : Weight (Option Rat) where
  add := Option.map₂ (· + ·)
  sub := Option.map₂ (· - ·)
  mul := Option.map₂ (· * ·)
  div x y := x.bind fun x => y.bind fun y => if y = 0 then none else some (x / y)
  nothing := some 0
  one := some 1
  hundred := some 100
  floor := Option.map Weight.floor
  isHalf x := x.any Weight.isHalf

/-- Rational weights as a ratio. -/
def ratioOf (weights : List Rat) : Option (List (Option Rat)) :=
  some (weights.map some)

/-- The share of a part in a whole, in percent. -/
theorem some_div_some_mul_hundred (part whole : Rat) :
    (some part / some whole * Weight.hundred : Option Rat) =
      if whole = 0 then none else some (part / whole * 100) := by
  show (if whole = 0 then none else some (part / whole) : Option Rat) * Weight.hundred = _
  split
  · rfl
  · rfl

theorem total_map_some (weights : List Rat) : total (weights.map some) = some weights.sum := by
  rw [← total_eq_sum, total, total, List.foldl_map]
  exact List.foldl_hom some (fun _ _ => rfl)

theorem firstWeight_map_some (weights : List Rat) :
    firstWeight (weights.map some) = some (firstWeight weights) := by
  cases weights with
  | nil => rfl
  | cons weight weights => rfl

/-- A share of defined weights is undefined only where the weights of its split sum up to
zero. -/
theorem newPaneShare_map_some (weights : List Rat) (index : Nat) :
    newPaneShare (weights.map some) (index + 1) =
      if (weights.drop index).sum = 0 then none
      else some (newPaneShare weights (index + 1)) := by
  rw [newPaneShare, newPaneShare]
  by_cases hfirst : index + 1 = 1
  · obtain rfl : index = 0 := by omega
    rw [if_pos rfl, if_pos rfl, total_map_some, firstWeight_map_some, total_eq_sum]
    exact some_div_some_mul_hundred _ _
  · rw [if_neg hfirst, if_neg hfirst, ← List.map_drop, ← List.map_drop, total_map_some,
      total_map_some, total_eq_sum, total_eq_sum]
    exact some_div_some_mul_hundred _ _

theorem roundHalfUp_some (x : Rat) : roundHalfUp (some x) = some (roundHalfUp x) := by
  rw [roundHalfUp, roundHalfUp]
  exact (apply_ite some _ _ _).symm

/-- The percentages of rational weights: a split of children whose weights are zero in
all has none. -/
theorem splitPercentages_ratioOf (weights : List Rat) (children : Nat) :
    splitPercentages (ratioOf weights) children =
      (List.range (children - 1)).map fun index =>
        if (weights.drop index).sum = 0 then none
        else some (roundHalfUp (newPaneShare weights (index + 1))) := by
  refine List.map_congr_left fun index _ => ?_
  show roundHalfUp (newPaneShare (weights.map some) (index + 1)) = _
  rw [newPaneShare_map_some]
  split
  · rfl
  · exact roundHalfUp_some _

/-! ## Common factors -/

theorem sum_drop_scale (c : Rat) (weights : List Rat) (index : Nat) :
    ((weights.map (c * ·)).drop index).sum = c * (weights.drop index).sum := by
  rw [← List.map_drop, List.sum_map_mul_left, List.map_id']

/-- A common factor cancels in each share. -/
theorem newPaneShare_scale {c : Rat} (hc : c ≠ 0) (weights : List Rat) (index : Nat) :
    newPaneShare (weights.map (c * ·)) (index + 1) = newPaneShare weights (index + 1) := by
  rw [newPaneShare_eq, newPaneShare_eq, sum_drop_scale, sum_drop_scale, mul_div_mul_left _ _ hc]

/-- A common factor changes no percentage, and makes none defined or undefined. -/
theorem splitPercentages_ratioOf_scale {c : Rat} (hc : c ≠ 0) (weights : List Rat)
    (children : Nat) :
    splitPercentages (ratioOf (weights.map (c * ·))) children =
      splitPercentages (ratioOf weights) children := by
  rw [splitPercentages_ratioOf, splitPercentages_ratioOf]
  refine List.map_congr_left fun index _ => ?_
  rw [newPaneShare_scale hc, sum_drop_scale]
  simp only [mul_eq_zero, hc, false_or]

/-! ## Equal weights -/

theorem sum_drop_replicate (children index : Nat) :
    ((List.replicate children (1 : Rat)).drop index).sum = (children - index : Nat) := by
  rw [List.drop_replicate, List.sum_replicate, nsmul_one]

/-- Of equal weights each split leaves all but one to the new pane. -/
theorem newPaneShare_replicate {children index : Nat} (hindex : index + 1 < children) :
    newPaneShare (List.replicate children (1 : Rat)) (index + 1) =
      100 * (children - (index + 1)) / (children - (index + 1) + 1) := by
  have hwhole : (children : Rat) - (index + 1) + 1 = children - index := by ring
  rw [newPaneShare_eq, sum_drop_replicate, sum_drop_replicate, Nat.cast_sub hindex.le,
    Nat.cast_sub (by omega), hwhole, Nat.cast_succ]
  ring

/-- Without a ratio every weight is one. -/
theorem splitPercentages_none (children : Nat) :
    splitPercentages none children =
      splitPercentages (ratioOf (List.replicate children 1)) children := by
  rw [splitPercentages, splitPercentages, ratioOf, List.map_replicate]
  rfl

/-- The percentages without a ratio, in numbers. -/
theorem splitPercentages_none_eq (children : Nat) :
    splitPercentages none children = (List.range' 1 (children - 1)).map fun split : Nat =>
      some (⌊(100 * (children - split) / (children - split + 1) : Rat) + 1 / 2⌋ : Rat) := by
  rw [splitPercentages_none, splitPercentages_ratioOf, List.range'_eq_map_range, List.map_map]
  refine List.map_congr_left fun index hindex => ?_
  have hlt : index + 1 < children := by
    have hrange := List.mem_range.mp hindex
    omega
  have hsum : ((List.replicate children (1 : Rat)).drop index).sum ≠ 0 := by
    rw [sum_drop_replicate, Nat.cast_ne_zero]
    omega
  rw [if_neg hsum, newPaneShare_replicate hlt, roundHalfUp_eq]
  rw [Function.comp_apply, Nat.add_comm 1, Nat.cast_succ]

/-- **Only relative weights matter.** Over the rationals, with a quotient by zero
undefined, weights with a common factor other than zero have the percentages that they
have without it, one for each child but the first. No ratio gives the percentages of any
equal weights, which are those of the number of children that a split cuts, rounded to
the nearest integer with a half going up. -/
theorem splitPercentages_scale {c : Rat} (hc : c ≠ 0) :
    (∀ weights : List Rat,
      splitPercentages (ratioOf (weights.map (c * ·))) weights.length =
        splitPercentages (ratioOf weights) weights.length ∧
      (splitPercentages (ratioOf weights) weights.length).length = weights.length - 1) ∧
    ∀ n : Nat,
      splitPercentages none n = splitPercentages (ratioOf (List.replicate n c)) n ∧
      splitPercentages none n = (List.range' 1 (n - 1)).map fun split : Nat =>
        some (⌊(100 * (n - split) / (n - split + 1) : Rat) + 1 / 2⌋ : Rat) := by
  refine ⟨fun weights => ⟨splitPercentages_ratioOf_scale hc weights _, ?_⟩, fun n => ⟨?_, ?_⟩⟩
  · rw [splitPercentages, List.length_map, List.length_range]
  · have hequal : List.replicate n c = (List.replicate n 1).map (c * ·) := by
      rw [List.map_replicate, mul_one]
    rw [splitPercentages_none, hequal, splitPercentages_ratioOf_scale hc]
  · exact splitPercentages_none_eq n

/-- A negative factor turns the weights around. The sum of the last two is zero, so their
split has no percentage, before and after. -/
theorem splitPercentages_scale_negative :
    (-2 : Rat) ≠ 0 ∧
      splitPercentages (ratioOf [3, -1, 1]) 3 = [some 0, none] ∧
      splitPercentages (ratioOf [-6, 2, -2]) 3 = [some 0, none] ∧
      splitPercentages (ratioOf [-2, -2, -2]) 3 = [some 67, some 50] := by
  have hfactor : (-2 : Rat) ≠ 0 := by decide +kernel
  obtain ⟨hscale, hequal⟩ := splitPercentages_scale hfactor
  have hpercents : splitPercentages (ratioOf [3, -1, 1]) 3 = [some 0, none] := by decide +kernel
  have hturned : [3, -1, 1].map ((-2 : Rat) * ·) = [-6, 2, -2] := by decide +kernel
  have hthirds : splitPercentages (none : Option (List (Option Rat))) 3 = [some 67, some 50] := by
    rw [(hequal 3).2]
    decide +kernel
  refine ⟨hfactor, hpercents, ?_, ?_⟩
  · rw [← hturned]
    exact (hscale [3, -1, 1]).1.trans hpercents
  · exact (hequal 3).1.symm.trans hthirds

end TmuxLayout
