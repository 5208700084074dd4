import TmuxLayout.Split

/-!
# Later splits ignore earlier weights

A split cuts the space of the children that are left, so its percentage must come from
their weights alone. The first split is worked out from all weights and the first of them,
every other one from the weights behind two indices, and neither goes back in front of the
child that is split off. This holds in any arithmetic, also where a sum is no number: a
weight that is none, or infinite, spoils no split behind that of its own child.

- `newPaneShare_congr`: the share of a new pane comes from the weights that are left.
- `getElem?_splitPercentages`: the percentage of one split.
- `splitPercentages_congr_from`: lists that agree from a child on have the same percentages
  from the split of that child on.
-/

namespace TmuxLayout

section

variable {α : Type} [Weight α] {weights others : List α} {split : Nat}

/-- A split reads no weight in front of the child that it splits off. -/
theorem newPaneShare_congr (h : weights.drop split = others.drop split) :
    newPaneShare weights (split + 1) = newPaneShare others (split + 1) := by
  cases split with
  | zero =>
    -- the first split reads them all
    rw [List.drop_zero, List.drop_zero] at h
    rw [h]
  | succ split =>
    have hrest : weights.drop (split + 1 + 1) = others.drop (split + 1 + 1) := by
      rw [← List.drop_drop, h, List.drop_drop]
    have hlater : split + 1 + 1 ≠ 1 := by omega
    rw [newPaneShare, newPaneShare, if_neg hlater, if_neg hlater, hrest, Nat.add_sub_cancel, h]

/-- The percentage at a position is that of its split. -/
theorem getElem?_splitPercentages (ratio : Option (List α)) (children split : Nat) :
    (splitPercentages ratio children)[split]? =
      if split < children - 1 then
        some (roundHalfUp (newPaneShare (weightsOf ratio children) (split + 1)))
      else none := by
  rw [splitPercentages, List.getElem?_map]
  split
  · next hsplit => rw [List.getElem?_range hsplit, Option.map_some]
  · next hsplit =>
    have hlength : (List.range (children - 1)).length ≤ split := by
      rw [List.length_range]
      omega
    rw [List.getElem?_eq_none hlength, Option.map_none]

/-- A percentage depends on the weights from its own position on. -/
theorem getElem?_splitPercentages_congr (h : weights.drop split = others.drop split)
    (children : Nat) :
    (splitPercentages (some weights) children)[split]? =
      (splitPercentages (some others) children)[split]? := by
  rw [getElem?_splitPercentages, getElem?_splitPercentages, weightsOf, weightsOf,
    Option.getD_some, Option.getD_some, newPaneShare_congr h]

end

theorem drop_eq_of_getElem? {α : Type} {weights others : List α} {first : Nat}
    (h : ∀ child, first ≤ child → weights[child]? = others[child]?) :
    weights.drop first = others.drop first := by
  refine List.ext_getElem? fun offset => ?_
  rw [List.getElem?_drop, List.getElem?_drop]
  exact h (first + offset) (Nat.le_add_right first offset)

/-- **Later splits ignore earlier weights.** When two lists of weights agree from a child on,
their percentages agree from the split of that child on, whatever the weights before it are
and whatever the arithmetic makes of them. So another weight of one child changes no
percentage behind the split of that child. -/
theorem splitPercentages_congr_from {α : Type} [Weight α] (children : Nat) :
    (∀ (weights others : List α) (first : Nat),
      (∀ child, first ≤ child → weights[child]? = others[child]?) →
      ∀ split, first ≤ split →
        (splitPercentages (some weights) children)[split]? =
          (splitPercentages (some others) children)[split]?) ∧
    ∀ (weights : List α) (child : Nat) (weight : α) (split : Nat), child < split →
      (splitPercentages (some (weights.set child weight)) children)[split]? =
        (splitPercentages (some weights) children)[split]? := by
  constructor
  · intro weights others first hagree split hsplit
    have hleft : weights.drop split = others.drop split :=
      drop_eq_of_getElem? fun child hchild => hagree child (Nat.le_trans hsplit hchild)
    exact getElem?_splitPercentages_congr hleft children
  · intro weights child weight split hsplit
    have hleft : (weights.set child weight).drop split = weights.drop split := by
      rw [List.drop_set, if_pos hsplit]
    exact getElem?_splitPercentages_congr hleft children

/-- A first weight that is no number spoils the first percentage, and the second one is that
of equal weights, as it is behind an infinite one. -/
theorem splitPercentages_congr_from_nan :
    let plain : List Float := [1.0, 50.0, 50.0]
    (∀ child, 1 ≤ child → plain[child]? = [Binary64.infinity, 50.0, 50.0][child]?) ∧
      ((splitPercentages (some [Binary64.nan, 50.0, 50.0]) 3)[0]?.any (·.isNaN)) = true ∧
      (splitPercentages (some [Binary64.nan, 50.0, 50.0]) 3)[1]? = some 50.0 ∧
      (splitPercentages (some [Binary64.infinity, 50.0, 50.0]) 3)[1]? = some 50.0 := by
  intro plain
  have hplain : (splitPercentages (some plain) 3)[1]? = some 50.0 := by decide +kernel
  have hagree : ∀ child, 1 ≤ child → plain[child]? = [Binary64.infinity, 50.0, 50.0][child]? := by
    intro child hchild
    cases child with
    | zero => omega
    | succ child => rfl
  obtain ⟨hlists, hset⟩ := splitPercentages_congr_from (α := Float) 3
  refine ⟨hagree, by decide +kernel, ?_, ?_⟩
  · rw [← hplain]
    exact hset plain 0 Binary64.nan 1 Nat.one_pos
  · rw [← hplain]
    exact (hlists plain _ 1 hagree 1 (Nat.le_refl 1)).symm

end TmuxLayout
