import TmuxLayout.Number.Decimal

/-!
# Doubles in decimal and hexadecimal notation

A finite double is an exact number; it is rounded once, to the number of digits
that is asked for, a half going to the even neighbour. Signs are left to callers.

- `Notation.fixed`: with a number of places behind the point.
- `Notation.scientific`: with one digit before the point and a power of ten.
- `Notation.general`: the shorter one of these, for a number of digits.
- `Notation.hexadecimal`: with hexadecimal digits and a power of two.
- `Notation.readPrefix`: the number at the begin of a text.
- `Notation.isOutOfRange`: whether a double cannot hold it.
-/

namespace TmuxLayout.Notation

/-- The size of a finite double as a numerator and a denominator. -/
def ratio (x : Float) : Nat × Nat :=
  let e := Binary64.exponent x
  if e ≥ 0 then (Binary64.significand x <<< e.toNat, 1)
  else (Binary64.significand x, 1 <<< (-e).toNat)

/-- The natural number nearest to the size of a finite double times a power of
ten. -/
def scaled (x : Float) (power : Int) : Nat :=
  let (num, den) := ratio x
  if power ≥ 0 then Binary64.nearest (num * Nat.pow 10 power.toNat) den
  else Binary64.nearest num (den * Nat.pow 10 (-power).toNat)

/-- Digits with a point before the last `places` of them. The point stands also
where nothing follows it, if it has to. -/
def withPoint (digits : List Char) (places : Nat) (keepsPoint : Bool) : List Char :=
  let digits := List.replicate (places + 1 - digits.length) '0' ++ digits
  let whole := digits.take (digits.length - places)
  if places = 0 then if keepsPoint then whole ++ ['.'] else whole
  else whole ++ ['.'] ++ digits.drop (digits.length - places)

/-- A finite double with a number of places behind the point. -/
def fixed (places : Nat) (keepsPoint : Bool) (x : Float) : List Char :=
  withPoint (Nat.toDigits 10 (scaled x places)) places keepsPoint

/-- The power of ten of the first digit of a double that is not zero. -/
def magnitude (x : Float) : Int :=
  let (num, den) := ratio x
  let guess : Int := (Nat.toDigits 10 num).length - (Nat.toDigits 10 den).length
  let isBelow :=
    if guess ≥ 0 then num < den * Nat.pow 10 guess.toNat
    else num * Nat.pow 10 (-guess).toNat < den
  if isBelow then guess - 1 else guess

/-- The digits of a finite double, `count + 1` of them, and the power of ten of
the first one. -/
def significantDigits (count : Nat) (x : Float) : List Char × Int :=
  if Binary64.significand x = 0 then (List.replicate (count + 1) '0', 0)
  else
    let power := magnitude x
    let digits := Nat.toDigits 10 (scaled x (count - power))
    if digits.length > count + 1 then (digits.dropLast, power + 1) else (digits, power)

/-- A power behind a letter, with a sign and at least `least` digits. -/
def powerText (letter : Char) (least : Nat) (power : Int) : List Char :=
  let digits := Nat.toDigits 10 power.natAbs
  [letter, if power < 0 then '-' else '+'] ++ List.replicate (least - digits.length) '0' ++ digits

/-- A finite double with one digit before the point and a power of ten. -/
def scientific (places : Nat) (keepsPoint : Bool) (x : Float) : List Char :=
  let (digits, power) := significantDigits places x
  withPoint digits places keepsPoint ++ powerText 'e' 2 power

/-- A text without zeros at its end, and without a point before them. -/
def withoutTrailingZeros (text : List Char) : List Char :=
  if text.contains '.' then
    let rest := text.reverse.dropWhile (· = '0')
    (if rest.head? = some '.' then rest.tail else rest).reverse
  else text

/-- A finite double with a number of significant digits: with a power of ten if it
is below a ten-thousandth or has more digits before the point. Zeros at the end
are left away unless the point is kept. -/
def general (precision : Nat) (keepsPoint : Bool) (x : Float) : List Char :=
  let count := max precision 1
  let (digits, power) := significantDigits (count - 1) x
  let short (text : List Char) : List Char :=
    if keepsPoint then text else withoutTrailingZeros text
  if power < -4 || power ≥ count then
    short (withPoint digits (count - 1) keepsPoint) ++ powerText 'e' 2 power
  else short (fixed (count - 1 - power).toNat keepsPoint x)

/-- A finite double with hexadecimal digits and a power of two; all digits that
are needed, unless a number of places is given. -/
def hexadecimal (places : Option Nat) (keepsPoint : Bool) (x : Float) : List Char :=
  let field := Binary64.exponentField x
  let isZero := Binary64.significand x = 0
  let power : Int := if isZero then 0 else if field = 0 then -1022 else field - 1023
  let hex (value count : Nat) : List Char :=
    let digits := Nat.toDigits 16 value
    List.replicate (count - digits.length) '0' ++ digits
  let text :=
    match places with
    | some places =>
      if places < 13 then
        withPoint (hex (Binary64.nearest (Binary64.significand x) (1 <<< (4 * (13 - places))))
          (places + 1)) places keepsPoint
      else withPoint (hex (Binary64.significand x) 14 ++ List.replicate (places - 13) '0') places keepsPoint
    | none =>
      let text := withoutTrailingZeros (withPoint (hex (Binary64.significand x) 14) 13 false)
      if keepsPoint && !text.contains '.' then text ++ ['.'] else text
  ['0', 'x'] ++ text ++ powerText 'p' 1 power

/-! ## Reading -/

/-- A text in lower case. -/
def lowered (text : List Char) : List Char :=
  text.map Char.toLower

/-- What is behind a word in upper or lower case. -/
def behindWord? (word : String) (text : List Char) : Option (List Char) :=
  if lowered (text.take word.length) = word.toList then some (text.drop word.length) else none

/-- Digits of a base with at most one point among them, as a number, how many of
them are behind the point, and what is behind them. -/
def pointedDigits? (isDigit : Char → Bool) (text : List Char) : Option (List Char × Nat × List Char) :=
  let whole := text.takeWhile isDigit
  let rest := text.drop whole.length
  let (fraction, behind) := match rest with
    | '.' :: rest => (rest.takeWhile isDigit, rest.dropWhile isDigit)
    | rest => ([], rest)
  if whole.isEmpty && fraction.isEmpty then none
  else some (whole ++ fraction, fraction.length, behind)

/-- A power behind one of two letters, and what is behind it; nothing is taken if
there is no whole power. -/
def powerAt (letter : Char) (text : List Char) : Int × List Char :=
  match text with
  | c :: rest =>
    let (negative, digits) := Decimal.splitSign rest
    let number := digits.takeWhile Char.isDigit
    if c.toLower ≠ letter || number.isEmpty then (0, text)
    else
      let size : Int := digitsValue number
      (if negative then -size else size, digits.drop number.length)
  | [] => (0, [])

/-- The unsigned number at the begin of a text, in decimal or hexadecimal digits
or as a word, and what is behind it. -/
def readUnsigned? (text : List Char) : Option (Float × List Char) :=
  let isHexDigit (c : Char) : Bool := (digitValue? 16 c).isSome
  let hexadecimal? := do
    let rest ← behindWord? "0x" text
    let (digits, places, rest) ← pointedDigits? isHexDigit rest
    let (power, rest) := powerAt 'p' rest
    let power := min 5000 (max (-5000) (power - 4 * places))
    let value := (digitsValue? 16 digits).getD 0
    return (if power ≥ 0 then Binary64.ofRatio (value <<< power.toNat) 1
      else Binary64.ofRatio value (1 <<< (-power).toNat), rest)
  let decimal? := do
    let (digits, places, rest) ← pointedDigits? Char.isDigit text
    let (power, rest) := powerAt 'e' rest
    return ((⟨false, digitsValue digits, power - places⟩ : Decimal).toFloat, rest)
  let word? (word : String) (value : Float) := (behindWord? word text).map (value, ·)
  hexadecimal?.or (decimal?.or ((word? "infinity" Binary64.infinity).or
    ((word? "inf" Binary64.infinity).or (word? "nan" Binary64.nan))))

/-- The number at the begin of a text behind white space, zero if there is none,
and what is behind it. -/
def readPrefix (text : List Char) : Float × List Char :=
  let (negative, unsigned) := Decimal.splitSign (text.dropWhile Char.isWhitespace)
  match readUnsigned? unsigned with
  | some (value, rest) => (if negative then -value else value, rest)
  | none => (0, text)

/-- Whether a text in digits writes a number that is too large or too small for the
double that was read from it. -/
def isOutOfRange (text : List Char) (value : Float) : Bool :=
  let (_, unsigned) := Decimal.splitSign (text.dropWhile Char.isWhitespace)
  let (digits, power) := match behindWord? "0x" unsigned with
    | some digits => (digits, 'p')
    | none => (unsigned, 'e')
  let size := digits.takeWhile fun c => c.toLower ≠ power
  let hasDigits := digits.head?.any fun c => (digitValue? 16 c).isSome || c = '.'
  hasDigits && (value.isInf ||
    (Binary64.exponentField value = 0 && size.any fun c => c ≠ '0' && c ≠ '.'))

end TmuxLayout.Notation
