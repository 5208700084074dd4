/-!
# Texts measured in octets

A place in a text may be given by the number of octets of UTF-8 before it.

- `octetCount text`: the number of octets of a text.
- `takeOctets count text`, `dropOctets count text`: a text cut at such a place. A
  character that lies across the place belongs to the part behind it.
-/

namespace TmuxLayout.Text

/-- The number of octets of a text in UTF-8. -/
def octetCount : List Char → Nat
  | [] => 0
  | c :: rest => c.utf8Size + octetCount rest

/-- The characters within so many octets from the begin. -/
def takeOctets : Nat → List Char → List Char
  | _, [] => []
  | count, c :: rest =>
    if c.utf8Size ≤ count then c :: takeOctets (count - c.utf8Size) rest else []

/-- The text without the characters within so many octets from its begin. -/
def dropOctets : Nat → List Char → List Char
  | _, [] => []
  | count, c :: rest =>
    if c.utf8Size ≤ count then dropOctets (count - c.utf8Size) rest else c :: rest

end TmuxLayout.Text
