import TmuxLayout.Number.Binary64

/-!
# Split sizes (SPEC_FULL.md §4.2, the ratio algorithm)

tmux cuts one pane in two at a time, so a container with `n` children takes
`n - 1` splits. Split `i`, counted from one, cuts the space that still holds the
children from `i - 1` on: child `i - 1` keeps a part of it, and the new pane gets
the rest for the children from `i` on. Its percentage is the share of their
weights.

Weights are never scaled or clamped. The arithmetic is written for any kind of
number, so the same definitions run on doubles and can be read over the
rationals.

- `Weight`: the arithmetic that split sizes need.
- `total`, `newPaneShare`: sums of weights, and the share of a new pane (`new_pane_share`).
- `roundHalfUp`: the nearest integer, a half going up (`round_half_up`).
- `splitPercentages`: the percentages of all splits of a container (`split_percentages`).
- `within64Bits`: an integer kept within sixty-four bits.
- `percentText`: a percentage of a double as it is printed.
-/

namespace TmuxLayout

/-- The arithmetic that split sizes need. -/
class Weight (α : Type) extends Add α, Sub α, Mul α, Div α where
  /-- The sum of no weights. -/
  nothing : α
  /-- The weight of every child when no ratio is given. -/
  one : α
  /-- The whole, in percent. -/
  hundred : α
  /-- The largest integer that is not larger. -/
  floor : α → α
  /-- Whether a number is a half or more. -/
  isHalf : α → Bool

/-- Doubles. A sum of them begins with negative zero, which changes no number it
is added to. -/
instance : Weight Float where
  nothing := -0.0
  one := 1.0
  hundred := 100.0
  floor := Binary64.floor
  isHalf x := x ≥ 0.5

/-- Rational numbers, with a quotient by zero being zero. -/
instance : Weight Rat where
  nothing := 0
  one := 1
  hundred := 100
  floor x := x.floor
  isHalf x := x ≥ 1 / 2

variable {α : Type} [Weight α]

/-- The sum of weights, from the left. -/
def total (weights : List α) : α :=
  weights.foldl (· + ·) Weight.nothing

/-- The first of the weights. -/
def firstWeight (weights : List α) : α :=
  weights.headD Weight.nothing

/-- The share of the new pane of a split in the space it cuts, in percent. The
first split takes the first weight off the sum of all. -/
def newPaneShare (weights : List α) (split : Nat) : α :=
  if split = 1 then
    (total weights - firstWeight weights) / total weights * Weight.hundred
  else
    total (weights.drop split) / total (weights.drop (split - 1)) * Weight.hundred

/-- The nearest integer, a half going up. -/
def roundHalfUp (x : α) : α :=
  if Weight.isHalf (x - Weight.floor x) then Weight.floor x + Weight.one else Weight.floor x

/-- The weights of children: those of the ratio, or one for each child. -/
def weightsOf (ratio : Option (List α)) (children : Nat) : List α :=
  ratio.getD (List.replicate children Weight.one)

/-- The percentages of the splits of a container, in order. -/
def splitPercentages (ratio : Option (List α)) (children : Nat) : List α :=
  (List.range (children - 1)).map fun i =>
    roundHalfUp (newPaneShare (weightsOf ratio children) (i + 1))

/-- The integer of sixty-four bits that is nearest to an integer. -/
def within64Bits (n : Int) : Int :=
  max (-(UInt64.size / 2 : Nat)) (min (UInt64.size / 2 - 1 : Nat) n)

/-- A rounded percentage as it is printed: an integer, which negative zero is
too, kept within sixty-four bits. -/
def percentText (percent : Float) : String :=
  if percent.isNaN then "NaN"
  else if percent.isInf then if percent > 0 then "inf" else "-inf"
  else toString (within64Bits (Binary64.truncate percent))

end TmuxLayout
