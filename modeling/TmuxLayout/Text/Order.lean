/-!
# The order of texts

Texts are in order of the numbers of their characters; a text comes before those
that go on behind it.

- `isAtMost`: whether a text comes before another one or is equal to it.
-/

namespace TmuxLayout.Text

/-- Whether a text comes before another one or is equal to it. -/
def isAtMost : List Char → List Char → Bool
  | [], _ => true
  | _ :: _, [] => false
  | c :: s, d :: t => c.toNat < d.toNat || (c = d && isAtMost s t)

end TmuxLayout.Text
