/-!
# Regular expressions for values

An expression is looked for in texts of UTF-8, octet by octet. While the mode of
Unicode is on, its parts stand for whole characters; while it is off, they stand
for octets, and a part that could fit a piece of a character is not allowed.

- `Pattern.Expression`: a regular expression.
- `Pattern.Expression.depth`: how deep its parts are nested.
- `Pattern.Expression.unicodeBehind?`: whether each part is allowed in its mode.
- `Pattern.Expression.isUsable`: whether it can be looked for.
-/

namespace TmuxLayout.Pattern

/-- A character of an expression. -/
structure Letter where
  c : Char
  /-- Whether it is written with two digits, as octets are. -/
  isOctet : Bool
deriving Repr, DecidableEq

/-- Whether a letter is one octet in UTF-8. -/
def Letter.isNarrow (letter : Letter) : Bool :=
  letter.c.utf8Size = 1

/-! ## Classes -/

/-- How two sets make one. -/
inductive SetOperator where
  | intersection
  | difference
  | symmetricDifference
deriving Repr, DecidableEq

/-- Whether something is in a set that two others make, given whether it is in
these. -/
def SetOperator.holds (operator : SetOperator) (inFirst inSecond : Bool) : Bool :=
  match operator with
  | intersection => inFirst && inSecond
  | difference => inFirst && !inSecond
  | symmetricDifference => inFirst != inSecond

/-- What stands in brackets: a set of characters, or of octets. -/
inductive CharSet where
  | empty
  | char (letter : Letter)
  | range (low high : Letter)
  /-- A class with a name. -/
  | named (isNegated : Bool)
  /-- Digits, white space or characters of words, or all others. -/
  | shorthand (isNegated : Bool)
  /-- The characters of a category. -/
  | category
  | bracketed (isNegated : Bool) (inner : CharSet)
  /-- A member of some other kind and the members behind it. -/
  | union (first others : CharSet)
  | operation (operator : SetOperator) (first second : CharSet)
deriving Repr, DecidableEq

namespace CharSet

/-- Whether a set is a union of more than one member. -/
def isUnion : CharSet → Bool
  | union _ _ => true
  | _ => false

/-- The set with one more member at its begin. -/
def adding (first : CharSet) : CharSet → CharSet
  | empty => first
  | others => union first others

/-- How deep sets are nested. The members of a union are on one level. -/
def depth : CharSet → Nat
  | bracketed _ inner => inner.depth + 1
  | union first others =>
    max (first.depth + 1) (if others.isUnion then others.depth else others.depth + 1)
  | operation _ first second => max first.depth second.depth + 1
  | _ => 0

/-- Whether a set of octets holds those from `0x80` on, or none if it may not
stand for octets. It holds all or none of them, for none of them can be written;
and brackets may hold none, since they are no characters. -/
def holdsHigh? : CharSet → Option Bool
  | empty => some false
  | char letter => if letter.isNarrow then some false else none
  | range low high => if low.isNarrow && high.isNarrow then some false else none
  | named isNegated => some isNegated
  | shorthand isNegated => if isNegated then none else some false
  | category => none
  | bracketed isNegated inner => do
    if (← inner.holdsHigh?) = isNegated then some false else none
  | union first others => return (← first.holdsHigh?) || (← others.holdsHigh?)
  | operation operator first second =>
    return operator.holds (← first.holdsHigh?) (← second.holdsHigh?)

end CharSet

/-! ## Expressions -/

/-- A regular expression, as far as it matters whether it can be looked for. -/
inductive Expression where
  | empty
  /-- A change of the mode up to the end of the group. -/
  | mode (unicode : Option Bool)
  | char (letter : Letter)
  /-- Any character. -/
  | dot
  /-- The begin or end of the text or of a line. -/
  | edge
  /-- The begin or end of a word, or no such place. -/
  | wordEdge
  /-- Digits, white space or characters of words, or all others. -/
  | shorthand (isNegated : Bool)
  /-- The characters of a category. -/
  | category
  | bracketed (set : CharSet)
  | repeated (inner : Expression)
  /-- A group, whose mode ends with it. -/
  | group (name : Option (List Char)) (unicode : Option Bool) (inner : Expression)
  /-- An expression of some other kind and those behind it. -/
  | both (first others : Expression)
  /-- An expression of some other kind and those to choose instead. -/
  | either (first others : Expression)
deriving Repr, DecidableEq

namespace Expression

/-- Whether an expression is a sequence. -/
def isBoth : Expression → Bool
  | both _ _ => true
  | _ => false

/-- Whether an expression is a choice. -/
def isEither : Expression → Bool
  | either _ _ => true
  | _ => false

/-- The sequence with one more expression at its begin. -/
def before (first : Expression) : Expression → Expression
  | empty => first
  | others => both first others

/-- The set that an escaped character stands for in brackets. -/
def toCharSet? : Expression → Option CharSet
  | char letter => some (.char letter)
  | shorthand isNegated => some (.shorthand isNegated)
  | category => some .category
  | _ => none

/-- How deep expressions are nested. What a sequence or a choice is made of is on
one level. -/
def depth : Expression → Nat
  | bracketed set => set.depth
  | repeated inner => inner.depth + 1
  | group _ _ inner => inner.depth + 1
  | both first others =>
    max (first.depth + 1) (if others.isBoth then others.depth else others.depth + 1)
  | either first others =>
    max (first.depth + 1) (if others.isEither then others.depth else others.depth + 1)
  | _ => 0

/-- The names of the groups, from left to right. -/
def names : Expression → List (List Char)
  | repeated inner => inner.names
  | group name _ inner => name.toList ++ inner.names
  | both first others | either first others => first.names ++ others.names
  | _ => []

/-- The mode behind an expression, given the one before it, or none if a part is
not allowed in its mode. Edges of words are looked for by octets only, and in that
mode nothing stands for octets that are no characters. -/
def unicodeBehind? (isUnicode : Bool) : Expression → Option Bool
  | empty | edge => some isUnicode
  | mode unicode => some (unicode.getD isUnicode)
  | char letter => if isUnicode || !letter.isOctet || letter.isNarrow then some isUnicode else none
  | dot | category => if isUnicode then some isUnicode else none
  | wordEdge => if isUnicode then none else some isUnicode
  | shorthand isNegated => if isUnicode || !isNegated then some isUnicode else none
  | bracketed set => if isUnicode || set.holdsHigh?.isSome then some isUnicode else none
  | repeated inner => inner.unicodeBehind? isUnicode
  | group _ unicode inner =>
    (inner.unicodeBehind? (unicode.getD isUnicode)).map fun _ => isUnicode
  | both first others | either first others => do
    others.unicodeBehind? (← first.unicodeBehind? isUnicode)

/-- How deep expressions may be nested. -/
def maxDepth : Nat := 250

/-- Whether an expression can be looked for: it is not too deep, its groups have
different names, and each part is allowed in its mode, which is that of Unicode at
first. -/
def isUsable (expression : Expression) : Bool :=
  expression.depth ≤ maxDepth && expression.names.Nodup && (expression.unicodeBehind? true).isSome

end Expression

end TmuxLayout.Pattern
