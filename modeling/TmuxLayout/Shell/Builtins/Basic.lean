import TmuxLayout.Shell.Expansion

/-!
# The ground of commands that the shell carries out itself

- `Builtin`: such a command: what it does with its arguments, and its exit status.
- `Builtin.put`: writes a text.
- `Builtin.options`: tells options from arguments.
- `inQuotes`: a text as it may stand in a script.
- `isSpecial`: whether a fault of a command ends the shell, and assignments before
  it last.
-/

namespace TmuxLayout.Shell

variable {σ : Type}

/-- A command that the shell carries out itself. -/
abbrev Builtin (σ : Type) := List (List Char) → Run σ Nat

/-- The exit status for whether something holds. -/
def statusOf (holds : Bool) : Nat :=
  if holds then 0 else 1

/-! ## Options -/

/-- What is wrong with options. -/
inductive OptionFault where
  | illegal (letter : Char)
  | noValue (letter : Char)
deriving Repr, DecidableEq

/-- The fault in words. -/
def OptionFault.message : OptionFault → List Char
  | illegal letter => ofText "Illegal option -" ++ [letter]
  | noValue letter => ofText "No arg for -" ++ [letter] ++ ofText " option"

/-- Letters as options with their values, and the last of them if its value is to
come. -/
def lettersAsOptions (plain valued : List Char) :
    List Char → Except OptionFault (List (Char × List Char) × Option Char)
  | [] => .ok ([], none)
  | letter :: rest =>
    if valued.contains letter then
      .ok (if rest.isEmpty then ([], some letter) else ([(letter, rest)], none))
    else if plain.contains letter then do
      let (options, waiting) ← lettersAsOptions plain valued rest
      return ((letter, []) :: options, waiting)
    else .error (.illegal letter)

/-- Options with their values, and the arguments behind them. -/
def splitOptions (plain valued : List Char) :
    List (List Char) → Except OptionFault (List (Char × List Char) × List (List Char))
  | [] => .ok ([], [])
  | ['-', '-'] :: rest => .ok ([], rest)
  | ('-' :: letter :: letters) :: rest => do
    let (options, waiting) ← lettersAsOptions plain valued (letter :: letters)
    match waiting, rest with
    | none, rest => do
      let (others, arguments) ← splitOptions plain valued rest
      return (options ++ others, arguments)
    | some letter, value :: rest => do
      let (others, arguments) ← splitOptions plain valued rest
      return (options ++ (letter, value) :: others, arguments)
    | some letter, [] => throw (.noValue letter)
  | arguments => .ok ([], arguments)

/-! ## Quoted texts -/

/-- A text behind an open quote, with its end. -/
def behindQuote (quote : Char) : List Char → List Char
  | [] => [quote]
  | c :: rest =>
    let wanted := if c = '\x27' then '"' else '\x27'
    if quote = wanted then c :: behindQuote quote rest
    else quote :: wanted :: c :: behindQuote wanted rest

/-- A text as it may stand in a script: in single quotes, and single quotes
themselves in double quotes. -/
def inQuotes (text : List Char) : List Char :=
  '\x27' :: behindQuote '\x27' text

namespace Builtin

/-- Writes a text, and fails if that is not possible. -/
def put (text : List Char) : Run σ Nat := do
  if ← Run.write 1 text then return 0
  Run.complain ((← get).builtin.elim [] (· ++ ofText ": ") ++ ofText "I/O error")
  return 1

/-- Writes a message that does not tell where it comes from. -/
def warn (message : List Char) : Run σ Unit := do
  let _ ← Run.write 2 (message ++ ['\n'])

/-- Options with their values, and the arguments behind them. -/
def options (plain valued : String) (arguments : List (List Char)) :
    Run σ (List (Char × List Char) × List (List Char)) :=
  match splitOptions plain.toList valued.toList arguments with
  | .ok result => return result
  | .error fault => Run.fail fault.message

/-- The arguments of a command that has no options. -/
def plainArguments (arguments : List (List Char)) : Run σ (List (List Char)) :=
  return (← options "" "" arguments).2

/-- An exit status or count. -/
def count (text : List Char) : Run σ Nat :=
  match Numeral.count? text with
  | some value => return value
  | none => Run.fail (ofText "Illegal number: " ++ text)

/-- Does nothing and succeeds. -/
def nothing : Builtin σ := fun _ => return 0

end Builtin

/-- The commands whose faults end the shell, and before which assignments last. -/
def isSpecial (name : List Char) : Bool :=
  specialNames.contains (String.ofList name)

end TmuxLayout.Shell
