import TmuxLayout.Number.Binary64

/-!
# Decimal numerals

A decimal numeral is a sign, digits with at most one point among them, and an
optional power of ten. It is kept as an exact number and rounded once.

- `Decimal`: the exact number `± digits · 10 ^ exponent`.
- `Decimal.ofChars?`: reads a numeral; at least one digit is required.
- `Decimal.toFloat`: the nearest double, infinite when the number is too large.
- `digitsValue`: the number that a row of digits in some base writes.
-/

namespace TmuxLayout

/-- The value of a digit of a base up to sixteen. -/
def digitValue? (base : Nat) (c : Char) : Option Nat :=
  let value :=
    if c.isDigit then some (c.toNat - '0'.toNat)
    else if 'a' ≤ c ∧ c ≤ 'f' then some (c.toNat - 'a'.toNat + 10)
    else if 'A' ≤ c ∧ c ≤ 'F' then some (c.toNat - 'A'.toNat + 10)
    else none
  value.filter (· < base)

/-- The number that a non-empty row of digits writes. -/
def digitsValue? (base : Nat) (digits : List Char) : Option Nat :=
  if digits.isEmpty then none
  else digits.foldl (fun total c => total.bind fun n =>
    (digitValue? base c).map (n * base + ·)) (some 0)

/-- The number that decimal digits write; other characters count as their
distance from zero, so callers pass digits only. -/
def digitsValue (digits : List Char) : Nat :=
  digits.foldl (fun n c => n * 10 + (c.toNat - '0'.toNat)) 0

/-- The exact number `± digits · 10 ^ exponent`. -/
structure Decimal where
  /-- Whether the numeral begins with a minus. -/
  negative : Bool
  /-- The digits without the point, as a number. -/
  digits : Nat
  /-- The power of ten that belongs to them. -/
  exponent : Int
deriving Repr, DecidableEq

namespace Decimal

/-- A leading sign and the rest. -/
def splitSign : List Char → Bool × List Char
  | '-' :: rest => (true, rest)
  | '+' :: rest => (false, rest)
  | rest => (false, rest)

/-- The power of ten at the end of a numeral: nothing, or `e`, an optional sign
and digits. -/
def exponent? : List Char → Option Int
  | [] => some 0
  | c :: rest =>
    if c = 'e' ∨ c = 'E' then
      let (negative, digits) := splitSign rest
      if digits.isEmpty ∨ ¬ digits.all Char.isDigit then none
      else
        let value : Int := digitsValue digits
        some (if negative then -value else value)
    else none

/-- Reads a whole numeral; there is a digit before or behind the point. -/
def ofChars? (text : List Char) : Option Decimal := do
  let (negative, unsigned) := splitSign text
  let whole := unsigned.takeWhile Char.isDigit
  let rest := unsigned.dropWhile Char.isDigit
  let (fraction, rest) := match rest with
    | '.' :: rest => (rest.takeWhile Char.isDigit, rest.dropWhile Char.isDigit)
    | rest => ([], rest)
  if whole.isEmpty ∧ fraction.isEmpty then none
  else
    let power ← exponent? rest
    some ⟨negative, digitsValue (whole ++ fraction), power - fraction.length⟩

/-- The nearest double. Numbers beyond all doubles need no arithmetic: with `d`
digits the number is below `10 ^ (d + exponent)`, and at least a tenth of it. -/
def toFloat (number : Decimal) : Float :=
  let size : Int := (Nat.toDigits 10 number.digits).length + number.exponent
  let magnitude :=
    if number.digits = 0 ∨ size < -330 then 0
    else if size > 310 then Binary64.infinity
    else if number.exponent ≥ 0 then
      Binary64.ofRatio (number.digits * Nat.pow 10 number.exponent.toNat) 1
    else Binary64.ofRatio number.digits (Nat.pow 10 (-number.exponent).toNat)
  if number.negative then -magnitude else magnitude

end Decimal

end TmuxLayout
