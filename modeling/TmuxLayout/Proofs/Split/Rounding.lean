import Mathlib.Algebra.Order.Field.Basic
import Mathlib.Data.Rat.Floor
import TmuxLayout.Proofs.Split.Shares

/-!
# Drift by rounding (SPEC_FULL.md §4.2)

The percentages of splits are rounded to integers, so each split is off by half a
percent at most of what it cuts. What it cuts carries the drift of the splits before
it. No split makes that drift larger, since parts of a space are no larger than the
space, and so the drift grows by half a percent a split.

- `roundHalfUp_eq`: the nearest integer, a half going up, is the floor of what is a
  half more.
- `Sized`: weights that are not negative, the last of them positive.
- `abs_mul_sub_mul_le`: one split adds half a percent to the drift.
- `abs_cut_sub_le`: the drift of a child after all splits, by induction on the weights.
- `splitPercentages_drift`: percentages are between 0 and 100, and the share of child
  `i`, counted from one, is within `i / 200` of that of its weight.
-/

namespace TmuxLayout

/-! ## Rounding -/

theorem roundHalfUp_eq (x : Rat) : roundHalfUp x = (⌊x + 1 / 2⌋ : Rat) := by
  have hle := Int.floor_le x
  have hlt := Int.lt_floor_add_one x
  show (if decide (x - ⌊x⌋ ≥ 1 / 2) = true then (⌊x⌋ : Rat) + 1 else ⌊x⌋) = _
  by_cases hhalf : x - ⌊x⌋ ≥ 1 / 2
  · have hfloor : ⌊x + 1 / 2⌋ = ⌊x⌋ + 1 := by
      refine Int.floor_eq_iff.mpr ⟨?_, ?_⟩
      · rw [Int.cast_add, Int.cast_one]
        linarith
      · rw [Int.cast_add, Int.cast_one]
        linarith
    rw [if_pos (decide_eq_true hhalf), hfloor, Int.cast_add, Int.cast_one]
  · have hfloor : ⌊x + 1 / 2⌋ = ⌊x⌋ :=
      Int.floor_eq_iff.mpr ⟨by linarith, by linarith⟩
    rw [if_neg fun h => hhalf (of_decide_eq_true h), hfloor]

theorem abs_roundHalfUp_sub_le (x : Rat) : |roundHalfUp x - x| ≤ 1 / 2 := by
  have hle := Int.floor_le (x + 1 / 2)
  have hlt := Int.lt_floor_add_one (x + 1 / 2)
  rw [roundHalfUp_eq, abs_le]
  constructor
  · linarith
  · linarith

/-- A percentage that is rounded is an integer, and stays a percentage. -/
theorem exists_roundHalfUp_eq {x : Rat} (hzero : 0 ≤ x) (hhundred : x ≤ 100) :
    ∃ n : Int, roundHalfUp x = n ∧ 0 ≤ n ∧ n ≤ 100 := by
  refine ⟨⌊x + 1 / 2⌋, roundHalfUp_eq x, Int.floor_nonneg.mpr (by linarith), ?_⟩
  have hlt : ⌊x + 1 / 2⌋ < 101 := Int.floor_lt.mpr (by norm_num; linarith)
  omega

/-! ## Weights -/

/-- Weights of which none is negative, and the last is positive. -/
structure Sized (weights : List Rat) : Prop where
  nonneg : ∀ weight ∈ weights, 0 ≤ weight
  last : ∀ weight, weights.getLast? = some weight → 0 < weight

namespace Sized

variable {first second : Rat} {weights : List Rat}

theorem tail (h : Sized (first :: second :: weights)) : Sized (second :: weights) :=
  ⟨fun weight hweight => h.nonneg weight (List.mem_cons_of_mem _ hweight),
    fun weight hlast => h.last weight (by rwa [List.getLast?_cons_cons])⟩

theorem sum_pos (h : Sized (first :: weights)) : 0 < (first :: weights).sum := by
  induction weights generalizing first with
  | nil =>
    rw [List.sum_singleton]
    exact h.last first rfl
  | cons second weights ih =>
    have hfirst := h.nonneg first List.mem_cons_self
    have hrest := ih h.tail
    rw [List.sum_cons]
    linarith

/-- What the first split gives the new pane is a part of what it cuts. -/
theorem part_mem (h : Sized (first :: second :: weights)) :
    0 ≤ (second :: weights).sum / (first :: second :: weights).sum ∧
      (second :: weights).sum / (first :: second :: weights).sum ≤ 1 := by
  have hfirst := h.nonneg first List.mem_cons_self
  have hrest := h.tail.sum_pos
  have hall := h.sum_pos
  refine ⟨div_nonneg hrest.le hall.le, (div_le_one hall).mpr ?_⟩
  have hsum : (first :: second :: weights).sum = first + (second :: weights).sum :=
    List.sum_cons
  linarith

/-- What it leaves to the first child is the share of the first weight. -/
theorem first_part (h : Sized (first :: second :: weights)) :
    first / (first :: second :: weights).sum =
      1 - (second :: weights).sum / (first :: second :: weights).sum := by
  rw [eq_sub_iff_add_eq, ← add_div, ← List.sum_cons, div_self h.sum_pos.ne']

end Sized

/-! ## Drift -/

/-- The percentages of splits are the shares of the new panes, rounded. -/
theorem splitPercentages_eq (weights : List Rat) :
    splitPercentages (some weights) weights.length = (newPaneShares weights).map roundHalfUp := by
  rw [splitPercentages, newPaneShares, List.map_map]
  rfl

/-- A part that is off by half a percent adds as much to the drift of what it is taken
from. -/
theorem abs_mul_sub_mul_le {kept exact drift part rounded : Rat} (hkept : 0 ≤ kept)
    (hkept' : kept ≤ 1) (hdrift : |kept - exact| ≤ drift) (hpart : 0 ≤ part) (hpart' : part ≤ 1)
    (hrounded : |rounded - part| ≤ 1 / 200) :
    |kept * rounded - exact * part| ≤ drift + 1 / 200 := by
  have hnonneg : 0 ≤ drift := (abs_nonneg _).trans hdrift
  have hsplit : kept * rounded - exact * part =
      (kept - exact) * part + kept * (rounded - part) := by ring
  calc |kept * rounded - exact * part|
      ≤ |(kept - exact) * part| + |kept * (rounded - part)| := by
        rw [hsplit]
        exact abs_add_le _ _
    _ = |kept - exact| * part + kept * |rounded - part| := by
        rw [abs_mul, abs_mul, abs_of_nonneg hpart, abs_of_nonneg hkept]
    _ ≤ drift * 1 + 1 * (1 / 200) := by gcongr
    _ = drift + 1 / 200 := by ring

/-- A part that is rounded as a percentage is a part, and off by half a percent. -/
theorem rounded_part {part : Rat} (hpart : 0 ≤ part) (hpart' : part ≤ 1) :
    0 ≤ roundHalfUp (part * 100) / 100 ∧ roundHalfUp (part * 100) / 100 ≤ 1 ∧
      |roundHalfUp (part * 100) / 100 - part| ≤ 1 / 200 := by
  obtain ⟨n, hn, hzero, hhundred⟩ :=
    exists_roundHalfUp_eq (x := part * 100) (by linarith) (by linarith)
  have hzero' : (0 : Rat) ≤ n := Int.cast_nonneg hzero
  have hhundred' : (n : Rat) ≤ 100 := by exact_mod_cast hhundred
  have hoff := abs_le.mp (abs_roundHalfUp_sub_le (part * 100))
  rw [hn] at hoff ⊢
  refine ⟨by linarith, by linarith, abs_le.mpr ⟨by linarith, by linarith⟩⟩

/-- Rounded percentages give the child at `index` half a percent of drift for each split
up to its own, on top of the drift of the space that is cut. -/
theorem abs_cut_sub_le {first : Rat} {weights : List Rat} (h : Sized (first :: weights))
    {kept exact drift : Rat} (hkept : 0 ≤ kept) (hkept' : kept ≤ 1)
    (hdrift : |kept - exact| ≤ drift) {index : Nat} {share weight : Rat}
    (hshare : (cut kept ((newPaneShares (first :: weights)).map roundHalfUp))[index]? = some share)
    (hweight : (first :: weights)[index]? = some weight) :
    |share - exact * (weight / (first :: weights).sum)| ≤ drift + (index + 1) / 200 := by
  induction weights generalizing first kept exact drift index with
  | nil =>
    have hfirst : first / [first].sum = 1 := by
      rw [List.sum_singleton, div_self]
      exact (h.last first rfl).ne'
    cases index with
    | zero =>
      cases hshare
      cases hweight
      rw [hfirst, mul_one, Nat.cast_zero]
      linarith
    | succ index => cases hshare
  | cons second weights ih =>
    obtain ⟨hpart, hpart'⟩ := h.part_mem
    obtain ⟨hrounded, hrounded', hoff⟩ := rounded_part hpart hpart'
    rw [newPaneShares_cons_cons, List.map_cons, cut] at hshare
    cases index with
    | zero =>
      cases hshare
      cases hweight
      -- what the new pane gets too much, the first child has too little
      rw [abs_sub_comm, ← sub_sub_sub_cancel_left _ _ 1] at hoff
      have hstep := abs_mul_sub_mul_le hkept hkept' hdrift (sub_nonneg.mpr hpart')
        (sub_le_self 1 hpart) hoff
      rw [h.first_part, ← mul_one_sub, Nat.cast_zero]
      linarith
    | succ index =>
      have hstep := abs_mul_sub_mul_le hkept hkept' hdrift hpart hpart' hoff
      have hbound := ih h.tail (mul_nonneg hkept hrounded)
        (mul_le_one₀ hkept' hrounded hrounded') hstep hshare hweight
      have hweights : exact * ((second :: weights).sum / (first :: second :: weights).sum) *
          (weight / (second :: weights).sum) =
            exact * (weight / (first :: second :: weights).sum) := by
        have hrest := h.tail.sum_pos.ne'
        field_simp
      rw [hweights] at hbound
      rw [Nat.cast_succ]
      linarith

/-! ## Percentages -/

theorem newPaneShares_mem {first : Rat} {weights : List Rat} (h : Sized (first :: weights))
    {share : Rat} (hshare : share ∈ newPaneShares (first :: weights)) :
    0 ≤ share ∧ share ≤ 100 := by
  induction weights generalizing first with
  | nil => cases hshare
  | cons second weights ih =>
    rw [newPaneShares_cons_cons, List.mem_cons] at hshare
    rcases hshare with rfl | hshare
    · obtain ⟨hpart, hpart'⟩ := h.part_mem
      exact ⟨by linarith, by linarith⟩
    · exact ih h.tail hshare

/-- **Rounding drifts by half a percent a split.** When no weight is negative and the
last is positive, all percentages are integers from 0 to 100, and splitting a space of
size one by them leaves child `i`, counted from one, a share that is within `i / 200` of
its weight over the sum of all weights. -/
theorem splitPercentages_drift (weights : List Rat) (hne : weights ≠ [])
    (hnonneg : ∀ weight ∈ weights, 0 ≤ weight) (hlast : 0 < weights.getLast hne) :
    (∀ percent ∈ splitPercentages (some weights) weights.length,
      ∃ n : Int, percent = n ∧ 0 ≤ n ∧ n ≤ 100) ∧
    (cut 1 (splitPercentages (some weights) weights.length)).length = weights.length ∧
    ∀ index share weight,
      (cut 1 (splitPercentages (some weights) weights.length))[index]? = some share →
      weights[index]? = some weight →
      |share - weight / weights.sum| ≤ ((index + 1 : Nat) : Rat) / 200 := by
  have hsized : Sized weights := by
    refine ⟨hnonneg, fun weight hweight => ?_⟩
    rw [List.getLast?_eq_some_getLast hne, Option.some_inj] at hweight
    exact hweight ▸ hlast
  obtain ⟨first, rest, rfl⟩ := List.exists_cons_of_ne_nil hne
  rw [splitPercentages_eq]
  refine ⟨fun percent hpercent => ?_, ?_, fun index share weight hshare hweight => ?_⟩
  · obtain ⟨share, hshare, rfl⟩ := List.mem_map.mp hpercent
    obtain ⟨hzero, hhundred⟩ := newPaneShares_mem hsized hshare
    exact exists_roundHalfUp_eq hzero hhundred
  · rw [length_cut, List.length_map, newPaneShares, List.length_map, List.length_range]
    rfl
  -- at first both spaces have size one, so there is no drift
  · have hzero : |(1 : Rat) - 1| ≤ 0 := by rw [sub_self, abs_zero]
    have hbound := abs_cut_sub_le hsized zero_le_one le_rfl hzero hshare hweight
    rwa [one_mul, zero_add, ← Nat.cast_succ] at hbound

/-- Of three children with equal weights the second is off by a sixth of a percent. -/
theorem splitPercentages_drift_of_thirds :
    (∃ hne : ([1, 1, 1] : List Rat) ≠ [], 0 < ([1, 1, 1] : List Rat).getLast hne) ∧
      (∀ weight ∈ ([1, 1, 1] : List Rat), 0 ≤ weight) ∧
      splitPercentages (some ([1, 1, 1] : List Rat)) 3 = [67, 50] ∧
      |(67 / 200 : Rat) - 1 / 3| ≤ 2 / 200 := by
  have hne : ([1, 1, 1] : List Rat) ≠ [] := List.cons_ne_nil _ _
  have hnonneg : ∀ weight ∈ ([1, 1, 1] : List Rat), 0 ≤ weight := by simp
  have hpercents : splitPercentages (some ([1, 1, 1] : List Rat)) 3 = [67, 50] := by
    decide +kernel
  have hlast : 0 < ([1, 1, 1] : List Rat).getLast hne := one_pos
  obtain ⟨-, -, hbound⟩ := splitPercentages_drift [1, 1, 1] hne hnonneg hlast
  have hshares : cut 1 (splitPercentages (some ([1, 1, 1] : List Rat)) 3) =
      [33 / 100, 67 / 200, 67 / 200] := by
    rw [hpercents]
    decide +kernel
  have hsecond := hbound 1 (67 / 200) 1 (by exact congrArg (·[1]?) hshares) rfl
  have hsum : ([1, 1, 1] : List Rat).sum = 3 := by decide +kernel
  rw [hsum] at hsecond
  exact ⟨⟨hne, hlast⟩, hnonneg, hpercents, hsecond⟩

end TmuxLayout
