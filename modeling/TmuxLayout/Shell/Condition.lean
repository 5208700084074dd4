import TmuxLayout.Shell.Expansion

/-!
# Conditions

The command `test` tells whether a condition on texts, integers or files holds.

- `ConditionFault`: what is wrong with a condition.
- `Condition.evaluate`: whether a condition holds.
-/

namespace TmuxLayout.Shell

/-- What is wrong with a condition. -/
inductive ConditionFault where
  | illegalNumber (text : List Char)
  | unexpectedOperator (text : List Char)
  | operandExpected (operator : List Char)
  | argumentExpected
  | closingExpected
deriving Repr, DecidableEq

/-- The fault in words. -/
def ConditionFault.message : ConditionFault → List Char
  | illegalNumber text => ofText "Illegal number: " ++ text
  | unexpectedOperator text => text ++ ofText ": unexpected operator"
  | operandExpected operator => operator ++ ofText ": argument expected"
  | argumentExpected => ofText "argument expected"
  | closingExpected => ofText "closing paren expected"

namespace Condition

/-- What stands at a path. -/
inductive FileKind where
  | directory
  | file (isEmpty : Bool)
  | program
  | device
deriving Repr, DecidableEq

/-- What a condition may look at: what stands at paths, and where a path leads
to. -/
structure Surroundings where
  kind? : List Char → Option FileKind
  place : List Char → List String

/-- Nothing to look at. -/
def Surroundings.none : Surroundings :=
  ⟨fun _ => Option.none, fun _ => []⟩

/-- The result of an operator. -/
abbrev Verdict := Except ConditionFault Bool

/-- An argument as an integer. -/
def number (text : List Char) : Except ConditionFault Int :=
  (Numeral.integer? text).elim (.error (.illegalNumber text)) .ok

/-- An operator on one argument, if it is one. No descriptor leads to a
terminal. -/
def unary? (around : Surroundings) (operator : String) (text : List Char) : Option Verdict :=
  let kind? := around.kind? text
  match operator with
  | "-n" => some (.ok !text.isEmpty)
  | "-z" => some (.ok text.isEmpty)
  | "-e" | "-r" | "-w" | "-O" | "-G" => some (.ok kind?.isSome)
  | "-f" => some (.ok (kind?.any fun kind => kind ≠ .directory && kind ≠ .device))
  | "-d" => some (.ok (kind? = some .directory))
  | "-x" => some (.ok (kind? = some .directory || kind? = some .program))
  | "-s" => some (.ok (kind?.any fun kind => kind ≠ .file true && kind ≠ .device))
  | "-c" => some (.ok (kind? = some .device))
  | "-t" => some ((number text).map fun _ => false)
  | "-L" | "-h" | "-b" | "-p" | "-S" | "-g" | "-u" | "-k" => some (.ok false)
  | _ => none

/-- An operator between two arguments, if it is one. All files are of the same
age. -/
def binary? (around : Surroundings) (operator : String) (a b : List Char) : Option Verdict :=
  let compare (holds : Int → Int → Bool) : Option Verdict :=
    some (do return holds (← number a) (← number b))
  match operator with
  | "=" => some (.ok (a = b))
  | "!=" => some (.ok (a ≠ b))
  | "<" => some (.ok (a < b))
  | ">" => some (.ok (b < a))
  | "-eq" => compare fun m n => m = n
  | "-ne" => compare fun m n => m ≠ n
  | "-lt" => compare fun m n => m < n
  | "-le" => compare fun m n => m ≤ n
  | "-gt" => compare fun m n => m > n
  | "-ge" => compare fun m n => m ≥ n
  | "-nt" | "-ot" => some (.ok false)
  | "-ef" => some (.ok ((around.kind? a).isSome && (around.kind? b).isSome &&
      around.place a = around.place b))
  | _ => none

/-- What an argument means where it stands. -/
inductive Meaning where
  | ended
  | negation
  | opening
  | closing
  | conjunction
  | disjunction
  | unary
  | binary
  | operand
deriving Repr, DecidableEq

/-- What an argument means for itself. -/
def ownMeaning (text : List Char) : Meaning :=
  match Run.shown text with
  | "!" => .negation
  | "(" => .opening
  | ")" => .closing
  | "-a" => .conjunction
  | "-o" => .disjunction
  | word =>
    if (unary? .none word []).isSome then .unary
    else if (binary? .none word [] []).isSome then .binary
    else .operand

/-- What the first argument means before the others. An operator on one argument
is an operand where none follows it or a binary operator does, and so is a
parenthesis that nothing follows. -/
def meaning : List (List Char) → Meaning
  | [] => .ended
  | text :: rest =>
    match ownMeaning text, rest with
    | .unary, [] => .operand
    | .unary, [_] => .unary
    | .unary, next :: _ => if ownMeaning next = .binary then .operand else .unary
    | .opening, [] => .operand
    | own, _ => own

/-- A result, and the arguments from the last one on that was looked at. -/
abbrev Outcome := Except ConditionFault (Bool × List (List Char))

mutual

/-- Conditions of which one has to hold, given what the first argument means; the
steps are bounded. -/
def disjunction (around : Surroundings) : Nat → Meaning → List (List Char) → Outcome
  | 0, _, _ => .error .argumentExpected
  | count + 1, first, arguments => do
    let (holds, rest) ← conjunction around count first arguments
    if meaning rest.tail = .disjunction then
      let (other, rest) ← disjunction around count (meaning (rest.drop 2)) (rest.drop 2)
      return (holds || other, rest)
    else return (holds, rest)

/-- Conditions all of which have to hold. -/
def conjunction (around : Surroundings) : Nat → Meaning → List (List Char) → Outcome
  | 0, _, _ => .error .argumentExpected
  | count + 1, first, arguments => do
    let (holds, rest) ← negation around count first arguments
    if meaning rest.tail = .conjunction then
      let (other, rest) ← conjunction around count (meaning (rest.drop 2)) (rest.drop 2)
      return (holds && other, rest)
    else return (holds, rest)

/-- A condition, or one that must not hold. -/
def negation (around : Surroundings) : Nat → Meaning → List (List Char) → Outcome
  | 0, _, _ => .error .argumentExpected
  | count + 1, .negation, arguments => do
    let next := meaning arguments.tail
    let (holds, rest) ← negation around count next
      (if next = .ended then arguments else arguments.tail)
    return (!holds, rest)
  | count + 1, first, arguments => single around count first arguments

/-- One condition. -/
def single (around : Surroundings) : Nat → Meaning → List (List Char) → Outcome
  | 0, _, _ => .error .argumentExpected
  | _ + 1, .ended, arguments => .ok (false, arguments)
  | count + 1, .opening, arguments => do
    let inside := arguments.tail
    if meaning inside = .closing then return (false, inside)
    let (holds, rest) ← disjunction around count (meaning inside) inside
    if meaning rest.tail = .closing then return (holds, rest.tail)
    else throw .closingExpected
  | _ + 1, .unary, arguments =>
    match arguments with
    | operator :: text :: rest =>
      ((unary? around (Run.shown operator) text).getD (.ok false)).map (·, text :: rest)
    | operator :: [] => .error (.operandExpected operator)
    | [] => .ok (false, [])
  | _ + 1, _, arguments =>
    match arguments with
    | left :: operator :: rest =>
      if ownMeaning operator = .binary then
        match rest with
        | right :: _ =>
          match binary? around (Run.shown operator) left right with
          | some result => result.map (·, rest)
          | none => .ok (!left.isEmpty, arguments)
        | [] => .error (.operandExpected operator)
      else .ok (!left.isEmpty, arguments)
    | left :: [] => .ok (!left.isEmpty, arguments)
    | [] => .ok (false, [])

end

/-- Whether a condition holds, given what its first argument means. -/
def evaluateFrom (around : Surroundings) (first : Meaning) (arguments : List (List Char)) :
    Except ConditionFault Bool := do
  let (holds, rest) ← disjunction around (4 * arguments.length + 4) first arguments
  match rest with
  | last :: _ :: _ => throw (.unexpectedOperator last)
  | _ => return holds

/-- Whether a condition holds. No arguments at all never do; three of them with
a binary operator in the middle are a comparison, and otherwise three or four may
be in parentheses or behind a negation. -/
def evaluate (around : Surroundings) : List (List Char) → Except ConditionFault Bool
  | [] => .ok false
  | first :: rest =>
    let arguments := first :: rest
    let isComparison := rest.length = 2 && ownMeaning (rest.headD []) = .binary
    if isComparison then evaluateFrom around .operand arguments
    else if rest.length = 2 || rest.length = 3 then
      if first = ['('] && rest.getLast? = some [')'] then
        evaluateFrom around (meaning rest.dropLast) rest.dropLast
      else if first = ['!'] then (evaluate around rest).map (!·)
      else evaluateFrom around (meaning arguments) arguments
    else evaluateFrom around (meaning arguments) arguments

end Condition

end TmuxLayout.Shell
