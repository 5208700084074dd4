/-!
# White space

White space here is the Unicode property `White_Space`, which has twenty-five
characters; the class of the core library knows the ASCII ones only.

- `isSpace c`: `c` has the property.
- `trim text`: the text without white space at its two ends.
-/

namespace TmuxLayout.Text

/-- The property `White_Space`, as inclusive ranges of code points. -/
def spaceRanges : List (Nat × Nat) :=
  [(0x09, 0x0D), (0x20, 0x20), (0x85, 0x85), (0xA0, 0xA0), (0x1680, 0x1680), (0x2000, 0x200A),
   (0x2028, 0x2029), (0x202F, 0x202F), (0x205F, 0x205F), (0x3000, 0x3000)]

/-- Whether a character is white space. -/
def isSpace (c : Char) : Bool :=
  spaceRanges.any fun (first, last) => first ≤ c.toNat && c.toNat ≤ last

/-- The text without white space at its two ends. -/
def trim (text : List Char) : List Char :=
  ((text.dropWhile isSpace).reverse.dropWhile isSpace).reverse

end TmuxLayout.Text

namespace String

/-- The string without white space at its two ends. -/
def trimSpace (text : String) : String :=
  String.ofList (TmuxLayout.Text.trim text.toList)

end String
