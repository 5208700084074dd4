/-!
# Numbers in binary64

The nearest double to a ratio of natural numbers, a half going to the even
neighbour, and the integers next to a double, computed exactly.

- `Binary64.scale num den`: the exponent `e` that puts `num / den / 2 ^ e` into
  `[2 ^ 52, 2 ^ 53)`, or `-1074` when it is smaller than that.
- `Binary64.ofRatio num den`: the double nearest to `num / den`.
- `Binary64.ofInt n`: the double nearest to an integer.
- `Binary64.floor x`: the largest integer that is not larger, as a double.
- `Binary64.truncate x`: a finite double without its fraction.
- `Binary64.nan`, `Binary64.infinity`: the values that are no numbers.
-/

namespace TmuxLayout.Binary64

/-- Not a number. -/
def nan : Float := Float.ofBits 0x7FF8000000000000

/-- Positive infinity. -/
def infinity : Float := Float.ofBits 0x7FF0000000000000

/-- The exponent of the last bit of the double nearest to `num / den`. -/
def scale (num den : Nat) : Int :=
  let guess : Int := (num.log2 : Int) - (den.log2 : Int)
  let below := if guess ≥ 0 then num < den <<< guess.toNat else num <<< (-guess).toNat < den
  max ((if below then guess - 1 else guess) - 52) (-1074)

/-- The natural number nearest to `num / den`, a half going to the even one. -/
def nearest (num den : Nat) : Nat :=
  let quotient := num / den
  let twice := 2 * (num % den)
  if twice > den ∨ (twice = den ∧ quotient % 2 = 1) then quotient + 1 else quotient

/-- The double nearest to `num / den`. -/
def ofRatio (num den : Nat) : Float :=
  if num = 0 ∨ den = 0 then 0 else
    let e := scale num den
    let significand :=
      if e ≥ 0 then nearest num (den <<< e.toNat) else nearest (num <<< (-e).toNat) den
    let bits := (e + 1074).toNat <<< 52 + significand
    if bits ≥ 0x7FF0000000000000 then infinity else Float.ofBits bits.toUInt64

/-- The double nearest to an integer. -/
def ofInt (n : Int) : Float :=
  if n < 0 then -(ofRatio n.natAbs 1) else ofRatio n.natAbs 1

/-- The eleven bits of a double that tell its exponent. -/
def exponentField (x : Float) : Nat :=
  (x.toBits.toNat >>> 52) % 2048

/-- The fifty-two bits of a double that tell its fraction. -/
def fractionField (x : Float) : Nat :=
  x.toBits.toNat % (1 <<< 52)

/-- The significand of a finite double, as a natural number. A bit that is not
written stands above the fraction, unless the exponent is the least one. -/
def significand (x : Float) : Nat :=
  if exponentField x = 0 then fractionField x else fractionField x + (1 <<< 52)

/-- The exponent of the last bit of a finite double. It is 972 for a value that
is no number or infinite. -/
def exponent (x : Float) : Int :=
  (max (exponentField x) 1 : Nat) - 1075

/-- Whether the sign of a double is minus, which negative zero has too. -/
def isNegative (x : Float) : Bool :=
  x.toBits.toNat >>> 63 = 1

/-- The largest integer that is not larger than a double. Zero keeps its sign,
and what is infinite or no number stays what it is. -/
def floor (x : Float) : Float :=
  if exponent x ≥ 0 ∨ significand x = 0 then x
  else if isNegative x then ofInt ((-(significand x : Int)) >>> (-(exponent x)).toNat)
  else ofInt ((significand x >>> (-(exponent x)).toNat : Nat) : Int)

/-- The integer that a finite double is when its fraction is dropped. -/
def truncate (x : Float) : Int :=
  let magnitude :=
    if exponent x ≥ 0 then significand x <<< (exponent x).toNat
    else significand x >>> (-(exponent x)).toNat
  if isNegative x then -magnitude else magnitude

/-- The double nearest to a power of ten. -/
def powerOfTen (n : Nat) : Float :=
  ofRatio (Nat.pow 10 n) 1

end TmuxLayout.Binary64
