import TmuxLayout.Yaml.Node
import TmuxLayout.Document

/-!
# What scalars stand for

A plain scalar without a tag stands for null, a boolean, a number or else a
string. A standard tag asks for one kind of value and refuses other texts.

- `isNullWord`, `boolWord?`: fixed spellings.
- `readInt?`: decimal, hexadecimal, octal and binary integers.
- `readFloat?`: decimal fractions, infinities and not-a-number.
- `readPlainScalar`: the value of a plain scalar.
- `readScalar`: the value of a scalar with its tag and style.
-/

namespace TmuxLayout.Yaml

/-! ## Spellings -/

/-- The spellings of null, the empty text apart. -/
def isNullWord (text : String) : Bool :=
  ["null", "Null", "NULL", "~"].contains text

/-- The spellings of the booleans. -/
def boolWord? : String → Option Bool
  | "true" | "True" | "TRUE" => some true
  | "false" | "False" | "FALSE" => some false
  | _ => none

/-! ## Numbers -/

/-- Whether a text is an optional sign, a zero and further digits: such a text
is no number. -/
def isZeroPadded (text : List Char) : Bool :=
  match (Decimal.splitSign text).2 with
  | '0' :: c :: rest => (c :: rest).all Char.isDigit
  | _ => false

/-- The number that follows the mark of a base. -/
def based? : List Char → Option Nat
  | '0' :: 'x' :: digits => digitsValue? 16 digits
  | '0' :: 'o' :: digits => digitsValue? 8 digits
  | '0' :: 'b' :: digits => digitsValue? 2 digits
  | _ => none

/-- An integer, written without bound: a base mark or decimal digits, behind an
optional sign. -/
def readInt? (text : List Char) : Option Int :=
  let (negative, unsigned) := Decimal.splitSign text
  let magnitude := (based? unsigned).or
    (if isZeroPadded text then none else digitsValue? 10 unsigned)
  magnitude.map fun n => if negative then -(n : Int) else n

/-- How an integer is kept. -/
inductive IntRange where
  /-- It fits sixty-four bits, signed or not. -/
  | fits
  /-- It fits twice as many bits and is refused. -/
  | refused
  /-- It is larger than that. -/
  | beyond
deriving Repr, DecidableEq

/-- The range of an integer. The lower bounds are half the upper ones. -/
def IntRange.of (n : Int) : IntRange :=
  let size : Int := UInt64.size
  if -size ≤ 2 * n ∧ n < size then fits
  else if -(size * size) ≤ 2 * n ∧ n < size * size then refused
  else beyond

/-- A fraction, an infinity or not-a-number. A decimal numeral beyond all
doubles is none. -/
def readFloat? (text : String) : Option Float :=
  if [".inf", ".Inf", ".INF", "+.inf", "+.Inf", "+.INF"].contains text then
    some Binary64.infinity
  else if ["-.inf", "-.Inf", "-.INF"].contains text then some (-Binary64.infinity)
  else if [".nan", ".NaN", ".NAN"].contains text then some Binary64.nan
  else match Decimal.ofChars? text.toList with
    | some number =>
      let value := number.toFloat
      if value.isFinite then some value else none
    | none => none

/-! ## Values -/

/-- The value of a number written in a scalar: nothing when the text is no
number, a fault when it is one that is refused. -/
def readNumber (text : String) : Except Cause (Option Document) :=
  match (readInt? text.toList).map fun n => (n, IntRange.of n) with
  | some (n, .fits) => .ok (some (.int n))
  | some (_, .refused) => .error .invalidScalar
  | _ =>
    if isZeroPadded text.toList then .ok none
    else .ok ((readFloat? text).map .float)

/-- The value of a plain scalar. -/
def readPlainScalar (text : String) : Except Cause Document :=
  if text.isEmpty || isNullWord text then .ok .null
  else match boolWord? text with
    | some value => .ok (.bool value)
    | none => (readNumber text).map (·.getD (.string text))

/-- The value of a scalar whose tag, if any, was taken care of. -/
def readUntagged (style : Style) (text : String) : Except Cause Document :=
  if style = .plain then readPlainScalar text else .ok (.string text)

/-- The value of a scalar that has a tag for one kind of value. -/
def readTagged (tag : Tag) (style : Style) (text : String) : Except Cause Document :=
  match tag with
  | .named _ | .unreadable => readUntagged style text
  | .bool => (boolWord? text).elim (.error .invalidScalar) (.ok <| .bool ·)
  | .int =>
    match (readInt? text.toList).map fun n => (n, IntRange.of n) with
    | some (n, .fits) => .ok (.int n)
    | _ => .error .invalidScalar
  | .float => (readFloat? text).elim (.error .invalidScalar) (.ok <| .float ·)
  | .null => if isNullWord text then .ok .null else .error .invalidScalar
  | .other => .ok (.string text)

/-- The value of a scalar. -/
def readScalar (tag : Option Tag) (style : Style) (text : String) : Except Cause Document :=
  match tag with
  | some tag => readTagged tag style text
  | none => readUntagged style text

end TmuxLayout.Yaml
