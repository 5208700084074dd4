import TmuxLayout.Shell.Formatting
import TmuxLayout.Shell.Tools.Basic
import TmuxLayout.Shell.Tools.RegularExpression.Reading
import TmuxLayout.Text.Order

/-!
# Programs about numbers and texts

- `Tool.seq`: the numbers of a row.
- `Value.read`, `Tool.expr`: the value of an expression.
- `Tool.echo`, `Tool.printf`, `Tool.yes`: write their arguments.
-/

namespace TmuxLayout.Shell.Tool

/-! ## Rows of numbers -/

/-- An integer and how many of its digits are behind the point. -/
structure Fixed where
  value : Int
  places : Nat
deriving Repr, DecidableEq

/-- Reads a number with a point. -/
def Fixed.read? (text : List Char) : Option Fixed := do
  let (isNegative, rest) := Decimal.splitSign (text.dropWhile Numeral.isSpace)
  let whole := rest.takeWhile Char.isDigit
  let places ← match rest.drop whole.length with
    | [] => some []
    | '.' :: places => if places.all Char.isDigit then some places else none
    | _ => none
  if whole.isEmpty && places.isEmpty then none
  let size : Int := digitsValue (whole ++ places)
  return ⟨if isNegative then -size else size, places.length⟩

/-- The value in units of so many places. -/
def Fixed.inUnits (number : Fixed) (places : Nat) : Int :=
  number.value * (Nat.pow 10 (places - number.places) : Nat)

/-- A value in units of so many places as a text. -/
def fixedText (places : Nat) (value : Int) : List Char :=
  let digits := digits value.natAbs
  let digits := List.replicate (places + 1 - digits.length) '0' ++ digits
  let whole := digits.take (digits.length - places)
  (if value < 0 then ['-'] else []) ++ whole ++
    (if places = 0 then [] else '.' :: digits.drop (digits.length - places))

/-- A number with zeros before its digits. -/
def zeroPadded (width : Nat) (text : List Char) : List Char :=
  let zeros := List.replicate (width - text.length) '0'
  match text with
  | '-' :: rest => '-' :: zeros ++ rest
  | text => zeros ++ text

/-- The numbers from one to another by steps, as texts. -/
def rowOf (first step last : Fixed) : List (List Char) :=
  let places := max first.places step.places
  let unit := max places last.places
  let (low, by_, high) := (first.inUnits unit, step.inUnits unit, last.inUnits unit)
  let count := if by_ > 0 then (high - low) / by_ + 1 else (low - high) / (-by_) + 1
  let scale : Int := (Nat.pow 10 (unit - places) : Nat)
  (List.range count.toNat).map fun (i : Nat) => fixedText places ((low + by_ * (i : Int)) / scale)

/-- Writes the numbers of a row. -/
def seq (invocation : Invocation) : Finish :=
  let letters : Letters := ⟨"w", "sf", [("separator", 's'), ("equal-width", 'w'), ("format", 'f')]⟩
  let isNumber (text : List Char) : Bool := (Fixed.read? text).isSome
  let arguments := invocation.arguments
  let behind := arguments.takeWhile fun text => !isNumber text
  let numbers := arguments.drop behind.length
  match readOptions letters false behind with
  | .error fault => misuse 1 "seq" fault.message
  | .ok chosen =>
    let operands := chosen.operands ++ numbers
    match operands.find? fun text => !isNumber text with
    | some text => misuse 1 "seq" (ofText "invalid floating point argument: " ++ quotedValue text)
    | none =>
      let one : Fixed := ⟨1, 0⟩
      let row (first step last : Fixed) (stepText : List Char) : Finish :=
        if step.value = 0 then
          misuse 1 "seq" (ofText "invalid Zero increment value: " ++ quotedValue stepText)
        else
          let texts := rowOf first step last
          let width := (texts.map List.length).foldl max 0
          let texts := if chosen.has 'w' then texts.map (zeroPadded width) else texts
          let texts := match chosen.value? 'f' with
            | some format => texts.map fun text =>
              let done := formatOnce (format.length + 1) format (.start [text])
              if done.fault.isSome then text else done.output
            | none => texts
          let separator := (chosen.value? 's').getD ['\n']
          aside (write (if texts.isEmpty then [] else separator.intercalate texts ++ ['\n']))
      match operands.filterMap Fixed.read? with
      | [last] => row one one last []
      | [first, last] => row first one last []
      | [first, step, last] => row first step last (operands.getD 1 [])
      | [] => misuse 1 "seq" (ofText "missing operand")
      | _ => misuse 1 "seq" (ofText "extra operand " ++ quotedValue (operands.getD 3 []))

/-! ## Expressions -/

namespace Value

/-- What is wrong with an expression. -/
inductive Fault where
  | unexpected (text : List Char)
  | missingBehind (text : List Char)
  | missingClosing (text : List Char)
  | notInteger
  | divisionByZero
  | noOperand
  | other (cause : String)
deriving Repr, DecidableEq

/-- The fault in words. -/
def Fault.message : Fault → List Char
  | unexpected text => ofText "syntax error: unexpected argument " ++ quotedValue text
  | missingBehind text => ofText "syntax error: missing argument after " ++ quotedValue text
  | missingClosing text => ofText "syntax error: expecting ')' after " ++ quotedValue text
  | notInteger => ofText "non-integer argument"
  | divisionByZero => ofText "division by zero"
  | noOperand => ofText "missing operand"
  | other cause => ofText cause

/-- The integer that a text writes, of any size. -/
def integer? (text : List Char) : Option Int :=
  match text with
  | '-' :: digits => (decimal? digits).map fun n => -(n : Int)
  | digits => (decimal? digits).map fun n => (n : Int)

/-- The text of an integer. -/
def ofInteger (value : Int) : List Char :=
  (toString value).toList

/-- Whether a value counts as nothing: an empty text, or zero. -/
def isNothing (value : List Char) : Bool :=
  value.isEmpty || integer? value = some 0

/-- A comparison of values, as integers if both are. -/
def compare (operator : String) (a b : List Char) : List Char :=
  let order := match integer? a, integer? b with
    | some m, some n => compareOfLessAndEq m n
    | _, _ => if a = b then .eq else if Text.isAtMost a b then .lt else .gt
  let holds : Bool := match operator with
    | "<" => order = .lt
    | "<=" => order ≠ .gt
    | "=" | "==" => order = .eq
    | "!=" => order ≠ .eq
    | ">=" => order ≠ .lt
    | _ => order = .gt
  if holds then ['1'] else ['0']

/-- What an expression fits at the begin of a text: the text of its first group, or
how many characters. -/
def fitted (text pattern : List Char) : Except Fault (List Char) :=
  match RegularExpression.read ⟨false, true⟩ pattern with
  | .error fault => .error (.other fault.message)
  | .ok expression =>
    let hasGroup := Text.occurs ['\\', '('] pattern
    match expression.fitHere? false [] text with
    | some found =>
      .ok (if hasGroup then (found.groups.lookup 1).getD [] else digits found.text.length)
    | none => .ok (if hasGroup then [] else ['0'])

/-- The result of an operator on two values. -/
def apply (operator : String) (a b : List Char) : Except Fault (List Char) := do
  let integers : Except Fault (Int × Int) :=
    match integer? a, integer? b with
    | some m, some n => .ok (m, n)
    | _, _ => .error .notInteger
  match operator with
  | "|" => return if isNothing a then (if isNothing b then ['0'] else b) else a
  | "&" => return if isNothing a || isNothing b then ['0'] else a
  | "+" => do
    let (m, n) ← integers
    return ofInteger (m + n)
  | "-" => do
    let (m, n) ← integers
    return ofInteger (m - n)
  | "*" => do
    let (m, n) ← integers
    return ofInteger (m * n)
  | "/" | "%" => do
    let (m, n) ← integers
    if n = 0 then throw .divisionByZero
    return ofInteger (if operator = "/" then Int.tdiv m n else Int.tmod m n)
  | ":" => fitted a b
  | operator => return compare operator a b

/-- How tightly an operator binds. -/
def strength? (text : List Char) : Option Nat :=
  match Run.shown text with
  | "|" => some 1
  | "&" => some 2
  | "<" | "<=" | "=" | "==" | "!=" | ">=" | ">" => some 3
  | "+" | "-" => some 4
  | "*" | "/" | "%" => some 5
  | ":" => some 6
  | _ => none

mutual

/-- Reads an operand, given the word before it; `depth` bounds the steps. -/
def readOperand : (depth : Nat) → (before : List Char) → List (List Char) →
    Except Fault (List Char × List (List Char))
  | 0, before, _ => .error (.missingBehind before)
  | depth + 1, before, words => do
    let one (rest : List (List Char)) (name : String) :
        Except Fault (List Char × List (List Char)) :=
      readOperand depth (ofText name) rest
    match words with
    | [] => throw (.missingBehind before)
    | word :: rest =>
      match Run.shown word with
      | "(" =>
        let (value, rest) ← readValue depth 1 word rest
        match rest with
        | [')'] :: rest => return (value, rest)
        | [] => throw (.missingClosing (words.getLast?.getD []))
        | other :: _ => throw (.unexpected other)
      | ")" => throw (.unexpected word)
      | "+" =>
        match rest with
        | text :: rest => return (text, rest)
        | [] => throw (.missingBehind word)
      | "length" => do
        if rest.isEmpty then throw (.missingBehind word)
        let (value, rest) ← one rest "length"
        return (digits value.length, rest)
      | "match" => do
        let (value, rest) ← one rest "match"
        let (pattern, rest) ← one rest "match"
        return (← fitted value pattern, rest)
      | "index" => do
        let (value, rest) ← one rest "index"
        let (chars, rest) ← one rest "index"
        return (digits ((value.findIdx? chars.contains).elim 0 (· + 1)), rest)
      | "substr" => do
        let (value, rest) ← one rest "substr"
        let (start, rest) ← one rest "substr"
        let (count, rest) ← one rest "substr"
        match integer? start, integer? count with
        | some start, some count =>
          if start ≤ 0 || count ≤ 0 then return ([], rest)
          return ((value.drop (start.toNat - 1)).take count.toNat, rest)
        | _, _ => return ([], rest)
      | _ => return (word, rest)

/-- Reads operators that bind at least as tightly as `strength`, with their
operands. -/
def readValue : (depth strength : Nat) → (before : List Char) → List (List Char) →
    Except Fault (List Char × List (List Char))
  | 0, _, before, _ => .error (.missingBehind before)
  | depth + 1, strength, before, words => do
    let (value, rest) ← readOperand depth before words
    readBehind depth strength value rest

/-- Reads operators behind a value. -/
def readBehind : (depth strength : Nat) → (value : List Char) → List (List Char) →
    Except Fault (List Char × List (List Char))
  | 0, _, value, rest => .ok (value, rest)
  | depth + 1, strength, value, words => do
    match words with
    | operator :: rest =>
      match strength? operator with
      | some other =>
        if other < strength then return (value, words)
        let (right, rest) ← readValue depth (other + 1) operator rest
        readBehind depth strength (← apply (Run.shown operator) value right) rest
      | none => return (value, words)
    | [] => return (value, [])

end

/-- The value of an expression. -/
def read (words : List (List Char)) : Except Fault (List Char) := do
  if words.isEmpty then throw .noOperand
  let (value, rest) ← readValue (4 * words.length + 4) 1 [] words
  match rest with
  | [] => return value
  | word :: _ => throw (.unexpected word)

end Value

/-- Writes the value of an expression. -/
def expr (invocation : Invocation) : Finish :=
  let words := match invocation.arguments with
    | ['-', '-'] :: words => words
    | words => words
  match Value.read words with
  | .ok value => aside (finish (if Value.isNothing value then 1 else 0) (value ++ ['\n']) [])
  | .error .noOperand => misuse 2 "expr" Value.Fault.noOperand.message
  | .error fault => fail 2 "expr" fault.message

/-! ## Arguments -/

/-- Writes its arguments, and ends the line unless an option says otherwise. -/
def echo (invocation : Invocation) : Finish :=
  let isOption (text : List Char) : Bool :=
    match text with
    | '-' :: letter :: letters => (letter :: letters).all ['n', 'e', 'E'].contains
    | _ => false
  let options := (invocation.arguments.takeWhile isOption).flatten
  let words := invocation.arguments.dropWhile isOption
  let text := [' '].intercalate words
  let (text, stops) := if options.contains 'e' then unescape text else (text, false)
  aside (write (if options.contains 'n' || stops then text else text ++ ['\n']))

/-- Writes its arguments in a format. -/
def printf (invocation : Invocation) : Finish :=
  match invocation.arguments with
  | [] => misuse 1 "printf" (ofText "missing operand")
  | format :: arguments =>
    let done := formatAll format (arguments.length + 1) (.start arguments)
    let isRight := done.complaints.isEmpty && done.fault.isNone
    aside (finish (if isRight then 0 else 1) done.output
      ((done.complaints ++ done.fault.toList).flatMap (message "printf")))

/-- Writes its arguments again and again, as often as anybody may read them. -/
def yes (invocation : Invocation) : Finish :=
  let words := if invocation.arguments.isEmpty then [['y']] else invocation.arguments
  aside (write (List.replicate 4096 ([' '].intercalate words ++ ['\n'])).flatten)

end TmuxLayout.Shell.Tool
