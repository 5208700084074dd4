import TmuxLayout.Shell.Builtins.Basic
import TmuxLayout.Shell.Flags
import TmuxLayout.Text.Order

/-!
# Parameters and options of the shell

- `Builtin.exportNames`, `Builtin.readOnly`, `Builtin.makeLocal`, `Builtin.unset`:
  variables and functions.
- `Builtin.shift`, `Builtin.setAll`: arguments and options of the shell.
- `Builtin.getopts`: reads the options among arguments one by one.
-/

namespace TmuxLayout.Shell.Builtin

variable {σ : Type}

/-! ## Variables -/

/-- A name and the value behind an equals sign, if there is one. -/
def assignmentArgument (text : List Char) : List Char × Option (List Char) :=
  let name := text.takeWhile (· ≠ '=')
  match text.dropWhile (· ≠ '=') with
  | _ :: value => (name, some value)
  | [] => (name, none)

/-- Fails unless a text is a name. -/
def checkName (name : List Char) : Run σ Unit := do
  if !isName name then Run.fail (name ++ ofText ": bad variable name")

/-- Variables with a property in the order of their names, each behind a word. -/
def list (word : String) (holds : Variable → Bool) : Run σ Nat := do
  let chosen := (← get).bindings.filter fun (_, entry) => holds entry
  let sorted := chosen.mergeSort fun a b => Text.isAtMost a.1 b.1
  put (sorted.flatMap fun (name, entry) =>
    ofText word ++ name ++ entry.value.elim [] (fun value => '=' :: inQuotes value) ++ ['\n'])

/-- Sets variables that have a value, and marks all of them; without names, those
that have the mark are shown. -/
def mark (word : String) (holds : Variable → Bool) (change : Variable → Variable) : Builtin σ :=
  fun arguments => do
    let (options, names) ← options "p" "" arguments
    if !options.isEmpty || names.isEmpty then return ← list word holds
    for argument in names do
      let (name, value) := assignmentArgument argument
      checkName name
      if let some value := value then Run.assign name value
      let old := (← Run.entry? name).getD ⟨none, false, false⟩
      Run.putVariable name (change old)
    return 0

/-- Has programs see variables. -/
def exportNames : Builtin σ :=
  mark "export " Variable.exported fun entry => { entry with exported := true }

/-- Keeps variables from being set. -/
def readOnly : Builtin σ :=
  mark "readonly " Variable.readOnly fun entry => { entry with readOnly := true }

/-- Makes variables belong to the current function. -/
def makeLocal : Builtin σ := fun arguments => do
  if (← get).functionDepth = 0 then Run.fail (ofText "not in a function")
  for argument in arguments do
    let (name, value) := assignmentArgument argument
    checkName name
    let old ← Run.entry? name
    modify fun session => { session with shadowed := (name, old) :: session.shadowed }
    if let some value := value then Run.assign name value
  return 0

/-- Takes variables or functions away. -/
def unset : Builtin σ := fun arguments => do
  let (options, names) ← options "vf" "" arguments
  let isFunction := options.getLast?.any fun (letter, _) => letter = 'f'
  for name in names do
    if isFunction then
      modify fun session =>
        { session with functions := session.functions.filter (·.1 ≠ name) }
    else
      checkName name
      if (← Run.entry? name).any Variable.readOnly then Run.fail (name ++ ofText ": is read only")
      Run.removeVariable name
  return 0

/-! ## Arguments and options of the shell -/

/-- Replaces the arguments, from which options have not been read then. -/
def setArguments (arguments : List (List Char)) : Run σ Unit :=
  modify fun session => { session with arguments, optionPlace := (1, none) }

/-- Drops arguments at the begin. -/
def shift : Builtin σ := fun arguments => do
  let count ← match arguments with
    | text :: _ => count text
    | [] => pure 1
  let session ← get
  if session.arguments.length < count then Run.fail (ofText "can't shift that many")
  setArguments (session.arguments.drop count)
  return 0

/-- Sets an option of the shell or takes it back. -/
def putFlag (isSet : Bool) (letter : Char) : Run σ Unit :=
  modify fun session => { session with flags := Flag.put isSet letter session.flags }

/-- Sets options by their letters; an `o` takes the name of another one from the
arguments, and shows all options if there is none. The arguments that are left
come back. -/
def setLetters (isSet : Bool) : List Char → List (List Char) → Run σ (List (List Char))
  | [], arguments => return arguments
  | 'o' :: letters, name :: arguments => do
    match Flag.ofName? name with
    | some letter => putFlag isSet letter
    | none => Run.fail (ofText "Illegal option -o " ++ name)
    setLetters isSet letters arguments
  | 'o' :: letters, [] => do
    let flags := (← get).flags
    let _ ← put (if isSet then Flag.settings flags else Flag.commands flags)
    setLetters isSet letters []
  | letter :: letters, arguments => do
    if !Flag.isLetter letter then Run.fail (ofText "Illegal option -" ++ [letter])
    putFlag isSet letter
    setLetters isSet letters arguments

/-- Sets options and arguments; the steps are bounded. -/
def setUpTo : Nat → List (List Char) → Run σ Unit
  | 0, _ | _, [] => return ()
  | _ + 1, ['-', '-'] :: arguments => setArguments arguments
  | _ + 1, ['-'] :: arguments => do
    putFlag false 'x'
    putFlag false 'v'
    if !arguments.isEmpty then setArguments arguments
  | steps + 1, ('-' :: letters) :: arguments => do
    setUpTo steps (← setLetters true letters arguments)
  | steps + 1, ('+' :: letters) :: arguments => do
    setUpTo steps (← setLetters false letters arguments)
  | _ + 1, arguments => setArguments arguments

/-- Sets options and arguments, or shows all variables. The control of jobs takes a
terminal. -/
def setAll : Builtin σ := fun arguments => do
  if arguments.isEmpty then return ← list "" fun entry => entry.value.isSome
  setUpTo arguments.length arguments
  if (← get).flags.contains 'm' then
    Run.complain (ofText "can't access tty; job control turned off")
    putFlag false 'm'
  return 0

/-! ## Options of scripts -/

/-- What is read as the next option. -/
structure ReadOption where
  /-- What the variable gets. -/
  letter : Char
  value : Option (List Char)
  /-- What is left of the argument. -/
  behind : Option (List Char)
  /-- The arguments behind it. -/
  rest : List (List Char)
  message : Option (List Char)

/-- The option with a letter, for the letters that there are. A colon behind a
letter says that the option has a value, and one before all of them that faults are
not told but shown in the variables. -/
def readOption (letters : List Char) (letter : Char) (behind : List Char)
    (rest : List (List Char)) : ReadOption :=
  let fault (reason : OptionFault) (sign : Char) (behind : Option (List Char)) : ReadOption :=
    if letters.head? = some ':' then ⟨sign, some [letter], behind, rest, none⟩
    else ⟨'?', none, behind, rest, some reason.message⟩
  match letters.dropWhile (· ≠ letter) with
  | [] => fault (.illegal letter) '?' (some behind)
  | _ :: ':' :: _ =>
    if !behind.isEmpty then ⟨letter, some behind, none, rest, none⟩
    else match rest with
      | value :: rest => ⟨letter, some value, none, rest, none⟩
      | [] => fault (.noValue letter) ':' (some behind)
  | _ => ⟨letter, some [], some behind, rest, none⟩

/-- Reads the next option among arguments into a variable. -/
def nextOption (letters name : List Char) (arguments : List (List Char)) : Run σ Nat := do
  let (index, behind) := (← get).optionPlace
  let index := if index > arguments.length + 1 then 1 else index
  let rest := arguments.drop (index - 1)
  let finish (place : Nat) (behind : Option (List Char)) (letter : Char) : Run σ Unit := do
    modify fun session => { session with optionPlace := (place, behind) }
    let old := (← Run.entry? (ofText "OPTIND")).getD ⟨none, false, false⟩
    Run.putVariable (ofText "OPTIND") { old with value := some (ofText (toString place)) }
    Run.assignChecked name [letter]
  let read (option : ReadOption) : Run σ Nat := do
    option.message.forM warn
    match option.value with
    | some value => Run.assign (ofText "OPTARG") value
    | none => Run.removeVariable (ofText "OPTARG")
    finish (arguments.length - option.rest.length + 1) option.behind option.letter
    return 0
  match behind, rest with
  | some (letter :: behind), rest => read (readOption letters letter behind rest)
  | _, ['-', '-'] :: rest => do
    finish (arguments.length - rest.length + 1) none '?'
    return 1
  | _, ('-' :: letter :: behind) :: rest => read (readOption letters letter behind rest)
  | _, _ => do
    finish index none '?'
    return 1

/-- Reads the next option among the arguments that follow, or else of the shell. -/
def getopts : Builtin σ := fun arguments => do
  match ← plainArguments arguments with
  | [letters, name] => nextOption letters name (← get).arguments
  | letters :: name :: arguments => nextOption letters name arguments
  | _ => Run.fail (ofText "Usage: getopts optstring var [arg...]")

end TmuxLayout.Shell.Builtin
