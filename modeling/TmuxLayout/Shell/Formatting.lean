import TmuxLayout.Number.Notation
import TmuxLayout.Shell.Expansion

/-!
# Formatted output

- `readEscape`: the character that a backslash and what follows it stand for.
- `unescape`: a text with its escapes carried out.
- `Format`: a directive of a format.
- `FieldLayout`: how a value is set in a field.
- `formatOnce`: a format applied to some arguments.
-/

namespace TmuxLayout.Shell

/-! ## Escapes -/

/-- The octal digits at the begin of a text, at most `limit` of them, and what is
behind them. -/
def octalDigits (limit : Nat) (text : List Char) : List Char × List Char :=
  let digits := (text.take limit).takeWhile fun c => '0' ≤ c && c ≤ '7'
  (digits, text.drop digits.length)

/-- The character that an escape stands for, given what follows the backslash,
and what is behind the escape. An unknown escape is a backslash. -/
def readEscape (text : List Char) : Char × List Char :=
  match text with
  | 'a' :: rest => ('\x07', rest)
  | 'b' :: rest => ('\x08', rest)
  | 'e' :: rest => ('\x1b', rest)
  | 'f' :: rest => ('\x0c', rest)
  | 'n' :: rest => ('\n', rest)
  | 'r' :: rest => ('\x0d', rest)
  | 't' :: rest => ('\t', rest)
  | 'v' :: rest => ('\x0b', rest)
  | '\\' :: rest => ('\\', rest)
  | text =>
    match octalDigits 3 text with
    | ([], _) => ('\\', text)
    | (digits, rest) => (Char.ofNat ((digitsValue? 8 digits).getD 0 % 256), rest)

/-- A text with its escapes carried out, and whether one of them said that
nothing more is to be written. A zero before an octal number counts as none of
its digits. The steps are bounded. -/
def unescapeUpTo : Nat → List Char → List Char × Bool
  | 0, text => (text, false)
  | _ + 1, [] => ([], false)
  | count + 1, c :: text =>
    if c ≠ '\\' then
      let (rest, stops) := unescapeUpTo count text
      (c :: rest, stops)
    else match text with
      | 'c' :: _ => ([], true)
      | text =>
        let number := match text with
          | '0' :: d :: rest => if '0' ≤ d && d ≤ '7' then d :: rest else text
          | text => text
        let (c, text) := readEscape number
        let (rest, stops) := unescapeUpTo count text
        (c :: rest, stops)

/-- A text with its escapes carried out. -/
def unescape (text : List Char) : List Char × Bool :=
  unescapeUpTo (text.length + 1) text

/-! ## Formats -/

/-- How a value is set in a field. -/
structure FieldLayout where
  flags : List Char
  width : Nat
  precision : Option Nat
deriving Repr, DecidableEq

namespace FieldLayout

/-- A text with room before or behind it. -/
def pad (layout : FieldLayout) (text : List Char) : List Char :=
  let room := List.replicate (layout.width - text.length) ' '
  if layout.flags.contains '-' then text ++ room else room ++ text

/-- Digits with a sign or mark before them; room between these may be filled
with zeros. -/
def padNumber (layout : FieldLayout) (mark digits : List Char) : List Char :=
  let digits := match layout.precision with
    | some count => List.replicate (count - digits.length) '0' ++ digits
    | none => digits
  if layout.flags.contains '0' && !layout.flags.contains '-' && layout.precision.isNone then
    mark ++ List.replicate (layout.width - mark.length - digits.length) '0' ++ digits
  else layout.pad (mark ++ digits)

/-- An integer with a sign. -/
def signed (layout : FieldLayout) (value : Int) : List Char :=
  let mark :=
    if value < 0 then ['-']
    else if layout.flags.contains '+' then ['+']
    else if layout.flags.contains ' ' then [' ']
    else []
  layout.padNumber mark (Nat.toDigits 10 value.natAbs)

/-- An integer of 64 bits without a sign, in some base. -/
def unsigned (layout : FieldLayout) (base : Nat) (mark : List Char) (value : Int) : List Char :=
  let mark := if layout.flags.contains '#' && value ≠ 0 then mark else []
  layout.padNumber mark (Nat.toDigits base (bits value))

/-- A double in some notation for its size; room is never filled with zeros where
there is no number. -/
def double (layout : FieldLayout) (write : Float → List Char) (value : Float) : List Char :=
  let isNegative := Binary64.isNegative value
  let mark :=
    if isNegative then ['-']
    else if layout.flags.contains '+' then ['+']
    else if layout.flags.contains ' ' then [' ']
    else []
  if value.isNaN then layout.pad (mark ++ "nan".toList)
  else if value.isInf then layout.pad (mark ++ "inf".toList)
  else { layout with precision := none }.padNumber mark (write value)

/-- A double by a directive, if it is one for doubles. -/
def double? (layout : FieldLayout) (directive : Char) (value : Float) : Option (List Char) :=
  let places := layout.precision.getD 6
  let keepsPoint := layout.flags.contains '#'
  let text? : Option (List Char) := match directive.toLower with
    | 'f' => some (layout.double (Notation.fixed places keepsPoint) value)
    | 'e' => some (layout.double (Notation.scientific places keepsPoint) value)
    | 'g' => some (layout.double (Notation.general places keepsPoint) value)
    | 'a' => some (layout.double (Notation.hexadecimal layout.precision keepsPoint) value)
    | _ => none
  if directive.isUpper then text?.map (·.map Char.toUpper) else text?

end FieldLayout

/-- A row of digits at the begin of a text, and what is behind it. -/
def numeral (text : List Char) : Nat × List Char :=
  (digitsValue (text.takeWhile Char.isDigit), text.dropWhile Char.isDigit)

/-- What a format has produced so far. -/
structure Formatted where
  output : List Char
  arguments : List (List Char)
  /-- Whether an argument was used. -/
  used : Bool
  /-- Whether nothing more is to be written. -/
  stopped : Bool
  /-- Messages about arguments. -/
  complaints : List (List Char)
  /-- What is wrong with the format, which ends it. -/
  fault : Option (List Char)

namespace Formatted

/-- Nothing yet, for some arguments. -/
def start (arguments : List (List Char)) : Formatted :=
  ⟨[], arguments, false, false, [], none⟩

/-- Adds a text that needs no argument. -/
def put (done : Formatted) (text : List Char) : Formatted :=
  { done with output := done.output ++ text }

/-- The next argument, if there is one, and the rest. -/
def next (done : Formatted) : Option (List Char) × Formatted :=
  match done.arguments with
  | [] => (none, done)
  | argument :: arguments => (some argument, { done with arguments, used := true })

/-- A numeral at the begin of a text, and what is wrong with the text if anything
is. -/
def integerOf (low high : Int) (text : List Char) : Int × Option String :=
  let (negative, digits) := Decimal.splitSign (text.dropWhile (· = ' '))
  let (size, rest) := numberAt digits
  let value : Int := if negative then -size else size
  if text.isEmpty then (0, none)
  else if !digits.head?.any Char.isDigit then (0, some "expected numeric value")
  else if value < low || high < value then
    (max low (min high value), some "Numerical result out of range")
  else if !rest.isEmpty then (value, some "not completely converted")
  else (value, none)

/-- The next argument as an integer. A quote before a character gives its
number. -/
def nextInteger (done : Formatted) (isSigned : Bool) : Int × Formatted :=
  let size : Int := UInt64.size
  let low := -(size / 2)
  let high := if isSigned then size / 2 - 1 else size - 1
  match done.next with
  | (none, done) => (0, done)
  | (some ('"' :: c :: _), done) | (some ('\x27' :: c :: _), done) => ((c.toNat : Int), done)
  | (some text, done) =>
    match integerOf low high text with
    | (value, none) => (value, done)
    | (value, some reason) =>
      (value, { done with complaints := done.complaints ++ [text ++ ofText ": " ++ ofText reason] })

/-- The next argument as a double. A quote before a character gives its number. -/
def nextDouble (done : Formatted) : Float × Formatted :=
  match done.next with
  | (none, done) => (0, done)
  | (some ('"' :: c :: _), done) | (some ('\x27' :: c :: _), done) =>
    (Binary64.ofInt c.toNat, done)
  | (some text, done) =>
    let (value, rest) := Notation.readPrefix text
    let reason? :=
      if text.isEmpty then none
      else if rest.isEmpty then
        if Notation.isOutOfRange text value then some "Numerical result out of range" else none
      else if rest = text then some "expected numeric value"
      else some "not completely converted"
    (value, { done with
      complaints := done.complaints ++
        (reason?.map fun reason => text ++ ofText ": " ++ ofText reason).toList })

/-- Adds the next argument by a directive; tells whether there is such a
directive. -/
def convert (done : Formatted) (layout : FieldLayout) (directive : Char) : Option Formatted :=
  let cut (text : List Char) : List Char := layout.precision.elim text text.take
  let integer (isSigned : Bool) (write : Int → List Char) : Formatted :=
    let (value, done) := done.nextInteger isSigned
    done.put (write value)
  match directive with
  | 's' =>
    let (argument, done) := done.next
    some (done.put (layout.pad (cut (argument.getD []))))
  | 'c' =>
    let (argument, done) := done.next
    some (done.put (layout.pad [(argument.getD []).headD '\x00']))
  | 'b' =>
    let (argument, done) := done.next
    let (text, stops) := unescape (argument.getD [])
    some { done.put (layout.pad (cut text)) with stopped := stops }
  | 'd' | 'i' => some (integer true layout.signed)
  | 'u' => some (integer false (layout.unsigned 10 []))
  | 'o' => some (integer false (layout.unsigned 8 ['0']))
  | 'x' => some (integer false (layout.unsigned 16 ['0', 'x']))
  | 'X' => some (integer false fun value => (layout.unsigned 16 ['0', 'X'] value).map Char.toUpper)
  | directive =>
    let (value, done) := done.nextDouble
    (layout.double? directive value).map done.put

end Formatted

/-- A number in a format, which may be taken from the arguments. -/
def fieldNumber (text : List Char) (done : Formatted) : Nat × List Char × Formatted :=
  match text with
  | '*' :: rest =>
    let (value, done) := done.nextInteger true
    (value.toNat, rest, done)
  | text =>
    let (value, rest) := numeral text
    (value, rest, done)

/-- Applies a format once. The steps are bounded. -/
def formatOnce : (count : Nat) → (format : List Char) → Formatted → Formatted
  | 0, _, done => done
  | _ + 1, [], done => done
  | count + 1, c :: rest, done =>
    if done.stopped then done
    else match c, rest with
      | '\\', rest =>
        let (c, rest) := readEscape rest
        formatOnce count rest (done.put [c])
      | '%', '%' :: rest => formatOnce count rest (done.put ['%'])
      | '%', rest =>
        let isFlag (c : Char) : Bool := ['#', '-', '+', ' ', '0'].contains c
        let flags := rest.takeWhile isFlag
        let (width, behind, done) := fieldNumber (rest.dropWhile isFlag) done
        let (precision, behind, done) := match behind with
          | '.' :: behind =>
            let (value, behind, done) := fieldNumber behind done
            (some value, behind, done)
          | behind => (none, behind, done)
        match behind with
        | [] => { done with fault := some (ofText "missing format character") }
        | directive :: behind =>
          match done.convert ⟨flags, width, precision⟩ directive with
          | some done => formatOnce count behind done
          | none =>
            let written := '%' :: rest.take (rest.length - behind.length)
            { done with fault := some (written ++ ofText ": invalid directive") }
      | c, rest => formatOnce count rest (done.put [c])

/-- Applies a format until all arguments are used, a number of times at most. -/
def formatAll (format : List Char) : (turns : Nat) → Formatted → Formatted
  | 0, done => done
  | turns + 1, done =>
    let done := formatOnce (format.length + 1) format { done with used := false }
    if done.stopped || done.fault.isSome || !done.used || done.arguments.isEmpty then done
    else formatAll format turns done

end TmuxLayout.Shell
