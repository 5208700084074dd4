import TmuxLayout.Shell.Arithmetic

/-!
# Numbers that commands are given

A command takes a number in decimal digits, with a sign and white space around it
if need be.

- `decimal?`: the number that digits alone write.
- `integer?`: an integer of 64 bits.
- `count?`: an exit status or a count.
-/

namespace TmuxLayout.Shell

/-- The number that a text writes in decimal digits. -/
def decimal? (text : List Char) : Option Nat :=
  if !text.isEmpty && text.all Char.isDigit then some (digitsValue text) else none

namespace Numeral

/-- White space, which may stand around numbers. -/
def isSpace (c : Char) : Bool :=
  c = ' ' || ('\t' ≤ c && c ≤ '\x0d')

/-- A text without the white space around it. -/
def trimmed (text : List Char) : List Char :=
  ((text.dropWhile isSpace).reverse.dropWhile isSpace).reverse

/-- The integer that a text writes, if it has 64 bits. -/
def integer? (text : List Char) : Option Int := do
  let (negative, digits) := Decimal.splitSign (trimmed text)
  let size ← decimal? digits
  let value : Int := if negative then -size else size
  if isInRange value then some value else none

/-- The count that a text writes, if it has 31 bits. -/
def count? (text : List Char) : Option Nat :=
  (integer? text).bind fun value =>
    if 0 ≤ value && 2 * value.toNat < UInt32.size then some value.toNat else none

end Numeral

end TmuxLayout.Shell
