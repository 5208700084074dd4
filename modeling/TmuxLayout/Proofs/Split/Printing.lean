import TmuxLayout.Proofs.Number.Floor
import TmuxLayout.Split

/-!
# Percentages as they are printed (SPEC_FULL.md §4.2)

The percentage of a split is a double that was rounded, so when it is finite it is a
whole number, of any size: weights that nearly cancel give percentages far beyond a
hundred. It is printed as an integer of sixty-four bits. Up to there its text is its
numeral, and no two percentages have the same text. Beyond, all print as the integer of
sixty-four bits that is nearest to them.

- `isWhole_roundHalfUp`: a rounded percentage is a whole number.
- `percentText_of_number_eq`: the text of a whole percentage.
- `FitsIn64Bits`: percentages that are printed as they are.
- `percentText_of_mem_splitPercentages`: the texts of the percentages of a container.
-/

namespace TmuxLayout

open Binary64

/-! ## Whole percentages -/

/-- Rounding gives a whole number, also when going up has to be rounded again. -/
theorem isWhole_roundHalfUp {x : Float} (h : (roundHalfUp x).isFinite = true) :
    IsWhole (number (roundHalfUp x)) := by
  have hfloor (hfinite : (Binary64.floor x).isFinite = true) :
      IsWhole (number (Binary64.floor x)) :=
    ⟨_, (number_floor (isFinite_of_floor hfinite)).2⟩
  rw [roundHalfUp] at h ⊢
  split at h
  · next hhalf =>
    have hone : IsWhole (number 1.0) := ⟨1, by decide +kernel⟩
    rw [if_pos hhalf]
    exact isWhole_add h (hfloor (isFinite_of_add h).1) hone
  · next hhalf =>
    rw [if_neg hhalf]
    exact hfloor h

theorem isWhole_of_mem_splitPercentages {ratio : Option (List Float)} {children : Nat}
    {percent : Float} (h : percent ∈ splitPercentages ratio children)
    (hfinite : percent.isFinite = true) : IsWhole (number percent) := by
  obtain ⟨index, -, rfl⟩ := List.mem_map.mp h
  exact isWhole_roundHalfUp hfinite

/-! ## Texts -/

/-- A whole percentage prints as an integer. Negative zero prints as the other does, since
both are the number zero. -/
theorem percentText_of_number_eq {percent : Float} {n : Int} (hfinite : percent.isFinite = true)
    (h : number percent = n) : percentText percent = toString (within64Bits n) := by
  obtain ⟨hnan, hinf⟩ := isNaN_of_isFinite hfinite
  rw [percentText, hnan, hinf, truncate_of_number_eq h]
  rfl

theorem within64Bits_eq_self_iff {n : Int} : within64Bits n = n ↔ -2 ^ 63 ≤ n ∧ n < 2 ^ 63 := by
  have hsize : UInt64.size / 2 = 2 ^ 63 := rfl
  rw [within64Bits, hsize]
  omega

/-- A percentage that sixty-four bits can hold. -/
def FitsIn64Bits (percent : Float) : Prop :=
  -2 ^ 63 ≤ number percent ∧ number percent < 2 ^ 63

theorem fitsIn64Bits_iff {percent : Float} {n : Int} (h : number percent = n) :
    FitsIn64Bits percent ↔ within64Bits n = n := by
  rw [FitsIn64Bits, h, within64Bits_eq_self_iff]
  norm_cast

theorem toString_eq_iff {n m : Int} : toString n = toString m ↔ n = m :=
  ⟨fun h => Int.repr_injective h, congrArg toString⟩

/-! ## Percentages of a container -/

/-- **Percentages are clamped to sixty-four bits, and not before.** A finite percentage of
a split is an integer, whatever the weights, and prints as the integer of sixty-four bits
that is nearest to it. Its text is its own numeral exactly when sixty-four bits can hold
it, and of percentages that they can hold only equal ones have the same text. -/
theorem percentText_of_mem_splitPercentages {ratio : Option (List Float)} {children : Nat}
    {percent : Float} (h : percent ∈ splitPercentages ratio children)
    (hfinite : percent.isFinite = true) :
    (∃ n : Int, number percent = n ∧ percentText percent = toString (within64Bits n) ∧
      (percentText percent = toString n ↔ FitsIn64Bits percent)) ∧
    ∀ ratio' children', ∀ other ∈ splitPercentages ratio' children', other.isFinite = true →
      FitsIn64Bits percent → FitsIn64Bits other →
        (percentText percent = percentText other ↔ number percent = number other) := by
  obtain ⟨n, hn⟩ := isWhole_of_mem_splitPercentages h hfinite
  have htext := percentText_of_number_eq hfinite hn
  refine ⟨⟨n, hn, htext, ?_⟩, ?_⟩
  · rw [htext, fitsIn64Bits_iff hn]
    exact toString_eq_iff
  · intro ratio' children' other hother hfinite' hfits hfits'
    obtain ⟨m, hm⟩ := isWhole_of_mem_splitPercentages hother hfinite'
    rw [fitsIn64Bits_iff hn] at hfits
    rw [fitsIn64Bits_iff hm] at hfits'
    rw [htext, percentText_of_number_eq hfinite' hm, hfits, hfits', hn, hm, Int.cast_inj]
    exact toString_eq_iff

/-- Weights that nearly cancel give a percentage of eighteen zeros. It prints with all of
them, and unlike the percentage of the next split. -/
theorem percentText_of_mem_splitPercentages_of_cancelling :
    splitPercentages (some [1e16, -1e16, 1.0]) 3 = [-1e18, 0.0] ∧
      (-1e18 : Float).isFinite = true ∧ (0.0 : Float).isFinite = true ∧
      FitsIn64Bits (-1e18) ∧ FitsIn64Bits 0.0 ∧
      percentText (-1e18) = toString (-10 ^ 18 : Int) ∧ percentText (-1e18) ≠ percentText 0.0 := by
  have hpercents : splitPercentages (some [1e16, -1e16, 1.0]) 3 = [-1e18, 0.0] := by
    decide +kernel
  have hfirst : (-1e18 : Float) ∈ splitPercentages (some [1e16, -1e16, 1.0]) 3 := by
    rw [hpercents]
    exact List.mem_cons_self
  have hsecond : (0.0 : Float) ∈ splitPercentages (some [1e16, -1e16, 1.0]) 3 := by
    rw [hpercents]
    exact List.mem_cons_of_mem _ List.mem_cons_self
  have hfinite : (-1e18 : Float).isFinite = true := by decide +kernel
  have hfinite' : (0.0 : Float).isFinite = true := by decide +kernel
  have hnumber : number (-1e18) = (-10 ^ 18 : Int) := by decide +kernel
  have hnumber' : number 0.0 = 0 := by decide +kernel
  have hfits : FitsIn64Bits (-1e18) := by
    rw [FitsIn64Bits, hnumber]
    norm_num
  have hfits' : FitsIn64Bits 0.0 := by
    rw [FitsIn64Bits, hnumber']
    norm_num
  obtain ⟨⟨n, hn, -, htext⟩, hsame⟩ := percentText_of_mem_splitPercentages hfirst hfinite
  rw [hnumber, Int.cast_inj] at hn
  have hiff := hsame _ _ 0.0 hsecond hfinite' hfits hfits'
  refine ⟨hpercents, hfinite, hfinite', hfits, hfits', ?_, ?_⟩
  · rw [hn]
    exact htext.mpr hfits
  · rw [Ne, hiff, hnumber, hnumber']
    norm_num

/-- Beyond sixty-four bits a finite percentage does not print as its numeral, and another
one, twice as large, prints as it does. -/
theorem percentText_clamped :
    splitPercentages (some [1e20, -1e20, 1.0]) 3 = [-1e22, 0.0] ∧
      splitPercentages (some [2e20, -2e20, 1.0]) 3 = [-2e22, 0.0] ∧
      (-1e22 : Float).isFinite = true ∧ (-2e22 : Float).isFinite = true ∧
      number (-1e22) = (-10 ^ 22 : Int) ∧ number (-2e22) = (-2 * 10 ^ 22 : Int) ∧
      percentText (-1e22) ≠ toString (-10 ^ 22 : Int) ∧
      percentText (-1e22) = percentText (-2e22) := by
  have hfinite : (-1e22 : Float).isFinite = true := by decide +kernel
  have hfinite' : (-2e22 : Float).isFinite = true := by decide +kernel
  have hnumber : number (-1e22) = (-10 ^ 22 : Int) := by decide +kernel
  have hnumber' : number (-2e22) = (-2 * 10 ^ 22 : Int) := by decide +kernel
  have htext := percentText_of_number_eq hfinite hnumber
  have htext' := percentText_of_number_eq hfinite' hnumber'
  refine ⟨by decide +kernel, by decide +kernel, hfinite, hfinite', hnumber, hnumber', ?_, ?_⟩
  · rw [htext, Ne, toString_eq_iff]
    decide
  · rw [htext, htext']
    rfl

end TmuxLayout
