/-!
# Directions of splits (SPEC_FULL.md §3, §4.2)

- `Direction`: side by side, or one above the other.
- `Direction.ofName?`, `Direction.name`: the word in a document.
- `Direction.flag`: the option of `split-window`.
-/

namespace TmuxLayout

/-- How the children of a container lie: `horizontal` places them from left to
right, `vertical` from top to bottom. -/
inductive Direction where
  | horizontal
  | vertical
deriving Repr, DecidableEq, Inhabited

namespace Direction

/-- The direction that a word in a document names. -/
def ofName? : String → Option Direction
  | "horizontal" => some horizontal
  | "vertical" => some vertical
  | _ => none

/-- The word for a direction. -/
def name : Direction → String
  | horizontal => "horizontal"
  | vertical => "vertical"

/-- The option of `split-window` for a direction. -/
def flag : Direction → String
  | horizontal => "-h"
  | vertical => "-v"

/-- A word names a direction exactly when it is the word for it. -/
theorem ofName?_eq_some_iff {word : String} {direction : Direction} :
    ofName? word = some direction ↔ word = direction.name := by
  constructor
  · intro h
    unfold ofName? at h
    split at h
    · cases h
      rfl
    · cases h
      rfl
    · cases h
  · rintro rfl
    cases direction <;> rfl

end Direction

end TmuxLayout
