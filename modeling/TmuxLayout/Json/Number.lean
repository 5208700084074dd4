import TmuxLayout.Document
import TmuxLayout.Json.Error
import TmuxLayout.Number.Decimal

/-!
# JSON numbers

A number without point and exponent that fits sixty-four bits is an integer.
Any other is a double, computed from its first digits as a significand of
sixty-four bits and one power of ten, each step rounded; the result may
therefore differ in the last place from the double nearest to the numeral.

- `Significand`: the leading digits that fit, and a power of ten.
- `Significand.toFloat`: significand times or divided by the power.
- `readNumber`: reads a numeral behind its sign.
-/

namespace TmuxLayout.Json

/-- The largest significand that is kept. -/
def maxSignificand : Nat := UInt64.size - 1

/-- The leading digits of a numeral that fit sixty-four bits, and the power of
ten that makes up for the digits left out and those behind the point. -/
structure Significand where
  digits : Nat
  exponent : Int
deriving Repr, DecidableEq

namespace Significand

/-- Takes digits until one does not fit; gives the digits that remain. -/
def take : Nat → List Char → Nat × List Char
  | n, [] => (n, [])
  | n, c :: rest =>
    let next := n * 10 + (c.toNat - '0'.toNat)
    if next ≤ maxSignificand then take next rest else (n, c :: rest)

/-- Scales by a power of ten in steps of at most `10 ^ 308`. From a significand
of sixty-four bits three steps down reach zero. -/
def scale : (steps : Nat) → Float → Int → Except Error Float
  | 0, value, _ => .ok value
  | steps + 1, value, exponent =>
    if exponent.natAbs ≤ 308 then
      let power := Binary64.powerOfTen exponent.natAbs
      if exponent ≥ 0 then
        if (value * power).isInf then .error .numberOutOfRange else .ok (value * power)
      else .ok (value / power)
    else if value == 0 then .ok value
    else if exponent ≥ 0 then .error .numberOutOfRange
    else scale steps (value / Binary64.powerOfTen 308) (exponent + 308)

/-- The double of a significand, with its sign. -/
def toFloat (negative : Bool) (s : Significand) : Except Error Float := do
  let value ← scale 4 (Binary64.ofRatio s.digits 1) s.exponent
  return if negative then -value else value

end Significand

/-- Reads the exponent of a numeral behind its `e`. -/
def readExponent (text : List Char) : Except Error (Int × List Char) :=
  let (negative, text) := Decimal.splitSign text
  let digits := text.takeWhile Char.isDigit
  let rest := text.dropWhile Char.isDigit
  if digits.isEmpty then
    .error (if rest.isEmpty then .unexpectedEnd else .invalidNumber)
  else
    let value : Int := digitsValue digits
    .ok (if negative then -value else value, rest)

/-- Reads a numeral behind its sign. -/
def readNumber (negative : Bool) (text : List Char) : Except Error (Document × List Char) := do
  let whole := text.takeWhile Char.isDigit
  let rest := text.dropWhile Char.isDigit
  if whole.isEmpty then
    throw (if rest.isEmpty then .unexpectedEnd else .invalidNumber)
  if whole.head? = some '0' ∧ whole.length > 1 then throw .invalidNumber
  let (digits, left) := Significand.take 0 whole
  let (significand, rest, isWhole) ← match rest with
    | '.' :: rest =>
      let fraction := rest.takeWhile Char.isDigit
      if fraction.isEmpty then throw .invalidNumber
      let (digits, unread) := Significand.take digits fraction
      let taken : Int := fraction.length - unread.length
      pure ((⟨digits, left.length - taken⟩ : Significand), rest.dropWhile Char.isDigit, false)
    | rest => pure (⟨digits, left.length⟩, rest, left.isEmpty)
  match rest with
  | 'e' :: rest | 'E' :: rest =>
    let (exponent, rest) ← readExponent rest
    let value ← ({ significand with exponent := significand.exponent + exponent }).toFloat negative
    return (.float value, rest)
  | rest =>
    if isWhole ∧ ¬ negative then return (.int digits, rest)
    else if isWhole ∧ digits ≠ 0 ∧ 2 * digits ≤ UInt64.size then return (.int (-digits), rest)
    else
      let value ← significand.toFloat negative
      return (.float value, rest)

end TmuxLayout.Json
