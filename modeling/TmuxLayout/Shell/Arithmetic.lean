import TmuxLayout.Number.Decimal
import TmuxLayout.Shell.Script
import TmuxLayout.Text.Search

/-!
# Arithmetic of the shell

Expressions are those of C on integers of 64 bits, which wrap. A larger number in
an expression stands for the largest of them.

- `Expression`, `Expression.read`: an expression, and its text.
- `wrap`: an integer brought into range.
- `Expression.value`: the value, whatever keeps the variables.
-/

namespace TmuxLayout.Shell

/-- What is wrong with an expression. -/
inductive ArithmeticCause where
  | expectingPrimary
  | expectingClosing
  | expectingColon
  | expectingEnd
  | divisionByZero
deriving Repr, DecidableEq

/-- The fault in words. -/
def ArithmeticCause.message : ArithmeticCause → String
  | expectingPrimary => "expecting primary"
  | expectingClosing => "expecting ')'"
  | expectingColon => "expecting ':'"
  | expectingEnd => "expecting EOF"
  | divisionByZero => "division by zero"

/-- An expression. -/
inductive Expression where
  | number (value : Nat)
  | parameter (name : List Char)
  | unary (operator : String) (operand : Expression)
  | binary (operator : String) (left right : Expression)
  | choice (test yes no : Expression)
  /-- An assignment, of the value of an operator if one is given. -/
  | assignment (name : List Char) (operator : Option String) (value : Expression)

/-! ## Reading -/

/-- What expressions are made of. -/
inductive ArithmeticToken where
  | number (value : Nat)
  | name (name : List Char)
  | operator (text : String)
  | other
deriving Repr, DecidableEq

/-- Operators, longer ones first. -/
def arithmeticOperators : List String :=
  ["<<=", ">>=", "<<", ">>", "<=", ">=", "==", "!=", "&&", "||", "+=", "-=", "*=", "/=", "%=",
    "&=", "|=", "^=", "<", ">", "=", "!", "~", "+", "-", "*", "/", "%", "&", "|", "^", "(", ")",
    "?", ":"]

/-- The digits of a number of some base, and what is behind them. -/
def digitsOf (base : Nat) (text : List Char) : Nat × List Char :=
  let isDigit (c : Char) : Bool := (digitValue? base c).isSome
  ((digitsValue? base (text.takeWhile isDigit)).getD 0, text.dropWhile isDigit)

/-- A number at the begin of a text: hexadecimal behind `0x`, octal behind `0`,
else decimal. -/
def numberAt (text : List Char) : Nat × List Char :=
  match text with
  | '0' :: x :: c :: rest =>
    if (x = 'x' || x = 'X') && (digitValue? 16 c).isSome then digitsOf 16 (c :: rest)
    else digitsOf 8 text
  | '0' :: _ => digitsOf 8 text
  | _ => digitsOf 10 text

/-- The token at the begin of a text that is not empty, and what is behind it. -/
def arithmeticToken (text : List Char) : ArithmeticToken × List Char :=
  if text.head?.any Char.isDigit then
    let (value, rest) := numberAt text
    (.number value, rest)
  else if text.head?.any isNameStart then
    (.name (text.takeWhile isNameChar), text.dropWhile isNameChar)
  else
    match arithmeticOperators.findSome? fun name =>
      (Text.after? name.toList text).map fun rest => (name, rest) with
    | some (name, rest) => (.operator name, rest)
    | none => (.other, text.tail)

/-- The tokens of a text; their number is at most `count`. -/
def arithmeticTokens : (count : Nat) → List Char → List ArithmeticToken
  | 0, _ => []
  | count + 1, text =>
    match text.dropWhile fun c => c = ' ' || c = '\t' || c = '\n' with
    | [] => []
    | text =>
      let (token, rest) := arithmeticToken text
      token :: arithmeticTokens count rest

/-- How tightly an operator between two operands binds. -/
def bindingStrength? : String → Option Nat
  | "||" => some 1
  | "&&" => some 2
  | "|" => some 3
  | "^" => some 4
  | "&" => some 5
  | "==" | "!=" => some 6
  | "<" | ">" | "<=" | ">=" => some 7
  | "<<" | ">>" => some 8
  | "+" | "-" => some 9
  | "*" | "/" | "%" => some 10
  | _ => none

/-- The operator of an assignment. -/
def assignmentOperator? : String → Option (Option String)
  | "=" => some none
  | "+=" => some (some "+")
  | "-=" => some (some "-")
  | "*=" => some (some "*")
  | "/=" => some (some "/")
  | "%=" => some (some "%")
  | "&=" => some (some "&")
  | "|=" => some (some "|")
  | "^=" => some (some "^")
  | "<<=" => some (some "<<")
  | ">>=" => some (some ">>")
  | _ => none

/-- Reads something from tokens. -/
abbrev ReadExpression :=
  List ArithmeticToken → Except ArithmeticCause (Expression × List ArithmeticToken)

mutual

/-- Reads an assignment or a choice; `depth` bounds the steps. -/
def readAssignment : (depth : Nat) → ReadExpression
  | 0, _ => .error .expectingPrimary
  | depth + 1, tokens =>
    let otherwise : Except ArithmeticCause (Expression × List ArithmeticToken) := do
      let (test, rest) ← readOperand depth tokens
      let (test, rest) ← readOperators depth 1 test rest
      match rest with
      | .operator "?" :: rest =>
        let (yes, rest) ← readAssignment depth rest
        match rest with
        | .operator ":" :: rest =>
          let (no, rest) ← readAssignment depth rest
          return (.choice test yes no, rest)
        | _ => throw .expectingColon
      | rest => return (test, rest)
    match tokens with
    | .name name :: .operator text :: rest =>
      match assignmentOperator? text with
      | some operator => do
        let (value, rest) ← readAssignment depth rest
        return (.assignment name operator value, rest)
      | none => otherwise
    | _ => otherwise

/-- Reads operators that bind at least as tightly as `strength`, with their right
operands. -/
def readOperators : (depth strength : Nat) → (left : Expression) → ReadExpression
  | 0, _, _, _ => .error .expectingPrimary
  | depth + 1, strength, left, tokens =>
    match tokens with
    | .operator text :: rest =>
      match bindingStrength? text with
      | some other =>
        if other < strength then .ok (left, tokens)
        else do
          let (right, rest) ← readOperand depth rest
          let (right, rest) ← readOperators depth (other + 1) right rest
          readOperators depth strength (.binary text left right) rest
      | none => .ok (left, tokens)
    | _ => .ok (left, tokens)

/-- Reads an operand. -/
def readOperand : (depth : Nat) → ReadExpression
  | 0, _ => .error .expectingPrimary
  | depth + 1, tokens =>
    match tokens with
    | .number value :: rest => .ok (.number value, rest)
    | .name name :: rest => .ok (.parameter name, rest)
    | .operator "(" :: rest => do
      let (value, rest) ← readAssignment depth rest
      match rest with
      | .operator ")" :: rest => return (value, rest)
      | _ => throw .expectingClosing
    | .operator text :: rest =>
      if ["+", "-", "!", "~"].contains text then do
        let (value, rest) ← readOperand depth rest
        return (.unary text value, rest)
      else .error .expectingPrimary
    | _ => .error .expectingPrimary

end

/-- Reads a whole text. -/
def Expression.read (text : List Char) : Except ArithmeticCause Expression := do
  let tokens := arithmeticTokens text.length text
  let (value, rest) ← readAssignment (4 * tokens.length + 4) tokens
  if rest.isEmpty then return value else throw .expectingEnd

/-! ## Values -/

/-- An integer brought into the range of 64 bits with a sign. -/
def wrap (n : Int) : Int :=
  Int.bmod n UInt64.size

/-- The integer of 64 bits with a sign that is nearest to a number. -/
def nearestInteger (n : Nat) : Int :=
  min n (UInt64.size / 2 - 1)

/-- Whether an integer has 64 bits with a sign. -/
def isInRange (n : Int) : Bool :=
  wrap n = n

/-- The bits of an integer. -/
def bits (n : Int) : Nat :=
  (n % UInt64.size).toNat

/-- One for true, zero for false. -/
def ofBool (b : Bool) : Int :=
  if b then 1 else 0

/-- The value of an operator with one operand. -/
def unaryValue (operator : String) (n : Int) : Int :=
  match operator with
  | "-" => wrap (-n)
  | "!" => ofBool (n = 0)
  | "~" => wrap (-n - 1)
  | _ => n

/-- The value of an operator with two operands, both of which are needed. -/
def binaryValue (operator : String) (a b : Int) : Except ArithmeticCause Int :=
  match operator with
  | "|" => .ok (wrap (bits a ||| bits b : Nat))
  | "^" => .ok (wrap (bits a ^^^ bits b : Nat))
  | "&" => .ok (wrap (bits a &&& bits b : Nat))
  | "==" => .ok (ofBool (a = b))
  | "!=" => .ok (ofBool (a ≠ b))
  | "<" => .ok (ofBool (a < b))
  | ">" => .ok (ofBool (b < a))
  | "<=" => .ok (ofBool (a ≤ b))
  | ">=" => .ok (ofBool (b ≤ a))
  | "<<" => .ok (wrap (a * Nat.pow 2 (b % 64).toNat))
  | ">>" => .ok (a / Nat.pow 2 (b % 64).toNat)
  | "+" => .ok (wrap (a + b))
  | "-" => .ok (wrap (a - b))
  | "*" => .ok (wrap (a * b))
  | "/" => if b = 0 then .error .divisionByZero else .ok (wrap (a.tdiv b))
  | _ => if b = 0 then .error .divisionByZero else .ok (a.tmod b)

/-- How variables are read and set while an expression is evaluated. -/
structure Variables (m : Type → Type) where
  read : List Char → m Int
  set : List Char → Int → m Unit
  fail : ArithmeticCause → m Int

namespace Expression

variable {m : Type → Type} [Monad m]

/-- The value of an operator, or the fault. -/
def apply (store : Variables m) (operator : String) (a b : Int) : m Int :=
  match binaryValue operator a b with
  | .ok value => pure value
  | .error cause => store.fail cause

/-- The value of an expression. -/
def value (store : Variables m) : Expression → m Int
  | number n => pure (nearestInteger n)
  | parameter name => store.read name
  | unary operator operand => do
    return unaryValue operator (← operand.value store)
  | binary "&&" left right => do
    if (← left.value store) = 0 then return 0
    return ofBool ((← right.value store) ≠ 0)
  | binary "||" left right => do
    if (← left.value store) ≠ 0 then return 1
    return ofBool ((← right.value store) ≠ 0)
  | binary operator left right => do
    let a ← left.value store
    let b ← right.value store
    apply store operator a b
  | choice test yes no => do
    if (← test.value store) ≠ 0 then yes.value store else no.value store
  | assignment name operator operand => do
    let b ← operand.value store
    let result ← match operator with
      | none => pure b
      | some operator => do
        let a ← store.read name
        apply store operator a b
    store.set name result
    return result

end Expression

end TmuxLayout.Shell
