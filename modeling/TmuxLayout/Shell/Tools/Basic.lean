import TmuxLayout.Shell.Tools.Quotation

/-!
# The ground of programs of the system

- `Tool.finish`, `Tool.fail`: what programs leave.
- `Tool.Letters`, `Tool.readOptions`: options of programs, in letters or words.
- `Tool.content`: what a file holds, or why it cannot be read.
- `Tool.onFiles`, `Tool.onTexts`: what comes of files, one after the other or in one.
-/

namespace TmuxLayout.Shell.Tool

/-! ## Ends -/

/-- A program that has read its input and written a text. -/
def finish (status : Nat) (output errorOutput : List Char) : Finish :=
  ⟨status, output, errorOutput, true, none, [], none, 0⟩

/-- A program that has written a text. -/
def write (text : List Char) : Finish :=
  finish 0 text []

/-- A program that has not looked at its input. -/
def aside (finish : Finish) : Finish :=
  { finish with tookInput := false }

/-- A message of a program. -/
def message (name : String) (text : List Char) : List Char :=
  ofText (name ++ ": ") ++ text ++ ['\n']

/-- What is wrong with a file, as a message. -/
def fileFault (name : String) (path : List Char) (reason : String) : List Char :=
  message name (clearName path ++ ofText (": " ++ reason))

/-- A program that fails with a message. -/
def fail (status : Nat) (name : String) (text : List Char) : Finish :=
  aside (finish status [] (message name text))

/-- The line that tells where to find help. -/
def helpLine (name : String) : List Char :=
  ofText ("Try '" ++ name ++ " --help' for more information.\n")

/-- A program that was called in a wrong way. -/
def misuse (status : Nat) (name : String) (text : List Char) : Finish :=
  aside (finish status [] (message name text ++ helpLine name))

/-! ## Options -/

/-- The options of a program: letters, letters with a value, and words for letters. -/
structure Letters where
  plain : String
  valued : String
  words : List (String × Char)

/-- What is wrong with options. -/
inductive OptionMisuse where
  | unknownLetter (letter : Char)
  | unknownWord (word : List Char)
  | noValue (letter : Char)
  | noWordValue (word : String)
  | needlessValue (word : String)
deriving Repr, DecidableEq

/-- The fault in words. -/
def OptionMisuse.message : OptionMisuse → List Char
  | unknownLetter letter => ofText "invalid option -- " ++ quoted [letter]
  | unknownWord word => ofText "unrecognized option " ++ quoted word
  | noValue letter => ofText "option requires an argument -- " ++ quoted [letter]
  | noWordValue word => ofText ("option '--" ++ word ++ "' requires an argument")
  | needlessValue word => ofText ("option '--" ++ word ++ "' doesn't allow an argument")

/-- Options with their values, and the other arguments. -/
structure Chosen where
  options : List (Char × List Char)
  operands : List (List Char)

namespace Chosen

/-- Whether an option is set. -/
def has (chosen : Chosen) (letter : Char) : Bool :=
  chosen.options.any fun (other, _) => other = letter

/-- The last value of an option. -/
def value? (chosen : Chosen) (letter : Char) : Option (List Char) :=
  (chosen.options.reverse.find? fun (other, _) => other = letter).map fun (_, value) => value

/-- The same with one more option. -/
def add (chosen : Chosen) (letter : Char) (value : List Char) : Chosen :=
  { chosen with options := (letter, value) :: chosen.options }

end Chosen

/-- Letters of an argument as options, and the last of them if its value is to come. -/
def readLetters (letters : Letters) :
    List Char → Except OptionMisuse (List (Char × List Char) × Option Char)
  | [] => .ok ([], none)
  | letter :: rest =>
    if letters.valued.toList.contains letter then
      .ok (if rest.isEmpty then ([], some letter) else ([(letter, rest)], none))
    else if letters.plain.toList.contains letter then do
      let (options, waiting) ← readLetters letters rest
      return ((letter, []) :: options, waiting)
    else .error (.unknownLetter letter)

/-- The word that a text stands for, whole or by its begin. -/
def wordMeant? (letters : Letters) (text : List Char) : Option (String × Char) :=
  match letters.words.filter fun (word, _) => (Text.after? text word.toList).isSome with
  | [word] => some word
  | words => words.find? fun (word, _) => word.toList = text

/-- Reads options and other arguments, which may stand between them unless
`stopsEarly` says that the first one ends the options. -/
def readOptions (letters : Letters) (stopsEarly : Bool) :
    List (List Char) → Except OptionMisuse Chosen
  | [] => .ok ⟨[], []⟩
  | ['-', '-'] :: rest => .ok ⟨[], rest⟩
  | ('-' :: '-' :: text) :: rest => do
    let name := text.takeWhile (· ≠ '=')
    match wordMeant? letters name, text.drop name.length with
    | none, _ => throw (.unknownWord ('-' :: '-' :: text))
    | some (word, letter), '=' :: value =>
      if letters.valued.toList.contains letter then
        return (← readOptions letters stopsEarly rest).add letter value
      else throw (.needlessValue word)
    | some (word, letter), _ =>
      if letters.valued.toList.contains letter then
        match rest with
        | value :: rest => return (← readOptions letters stopsEarly rest).add letter value
        | [] => throw (.noWordValue word)
      else return (← readOptions letters stopsEarly rest).add letter []
  | ('-' :: letter :: more) :: rest => do
    let (options, waiting) ← readLetters letters (letter :: more)
    match waiting, rest with
    | none, rest => do
      let chosen ← readOptions letters stopsEarly rest
      return { chosen with options := options ++ chosen.options }
    | some letter, value :: rest => do
      let chosen ← readOptions letters stopsEarly rest
      return { chosen with options := options ++ (letter, value) :: chosen.options }
    | some letter, [] => throw (.noValue letter)
  | operand :: rest => do
    if stopsEarly then return ⟨[], operand :: rest⟩
    let chosen ← readOptions letters stopsEarly rest
    return { chosen with operands := operand :: chosen.operands }

/-- Runs a program on its options and other arguments. -/
def withOptions (name : String) (letters : Letters) (invocation : Invocation)
    (run : Chosen → Finish) : Finish :=
  match readOptions letters false invocation.arguments with
  | .ok chosen => run chosen
  | .error fault => misuse 1 name fault.message

/-! ## Files -/

/-- Why there is nothing at a path, in words. -/
def readFaultText : ReadFault → String
  | .notFound => "No such file or directory"
  | .failed cause => cause

/-- What is at a path, or why there is nothing. -/
def entry (invocation : Invocation) (path : List Char) : Except String FileTree :=
  (invocation.tree.find invocation.directory (Run.shown path)).mapError readFaultText

/-- What is at a path of a tree. -/
def entryIn (invocation : Invocation) (tree : FileTree) (path : List Char) :
    Except ReadFault FileTree :=
  tree.find invocation.directory (Run.shown path)

/-- The components of a path from the root, without steps upward. -/
def placeOf (invocation : Invocation) (path : List Char) : List String :=
  FileTree.simplify [] (FileTree.absolute invocation.directory (Run.shown path))

/-- Why no entry can be made at a path, if so: the directory that it would be in is
not there. -/
def parentFault? (invocation : Invocation) (tree : FileTree) (path : List Char) : Option String :=
  match tree.follow [] (placeOf invocation path).dropLast with
  | .ok (.directory _) => none
  | .ok (.file _) => some "Not a directory"
  | .error fault => some (readFaultText fault)

/-- Why a file cannot be written at a path, if so. -/
def writeFault? (invocation : Invocation) (tree : FileTree) (path : List Char) : Option String :=
  match entryIn invocation tree path with
  | .ok (.directory _) => some "Is a directory"
  | .ok (.file _) => none
  | .error _ => parentFault? invocation tree path

/-- What a file holds, or why it cannot be read. -/
def content (invocation : Invocation) (path : List Char) : Except String (List Char) :=
  if path = ofText "/dev/null" then .ok []
  else if path = ofText "/dev/stdin" then .ok invocation.input
  else match entry invocation path with
    | .ok (.file octets) => .ok (Run.textOfOctets octets)
    | .ok (.directory _) => .error "Is a directory"
    | .error reason => .error reason

/-- The text of an operand; a hyphen stands for the input. -/
def operandText (invocation : Invocation) (path : List Char) : Except String (List Char) :=
  if path = ['-'] then .ok invocation.input else content invocation path

/-- Operands, or the input if there are none. -/
def operandsOrInput (operands : List (List Char)) : List (List Char) :=
  if operands.isEmpty then [['-']] else operands

/-- What comes of files one after the other from some state on. The input can be read
once: nothing is left of it for a second hyphen. -/
def foldFiles {α : Type} (invocation : Invocation) (operands : List (List Char)) (start : α)
    (step : α → List Char → Except String (List Char) → α) : α :=
  (operands.foldl (fun (state, invocation) path =>
    let text := operandText invocation path
    let invocation := if path = ['-'] then { invocation with input := [] } else invocation
    (step state path text, invocation)) (start, invocation)).1

/-- What comes of files one after the other, with messages about those that cannot
be read. -/
def onFiles (invocation : Invocation) (operands : List (List Char)) (status : Nat)
    (complaint : List Char → String → List Char) (run : List Char → List Char → List Char) :
    Finish :=
  foldFiles invocation (operandsOrInput operands) (write []) fun done path text =>
    match text with
    | .ok text => { done with output := done.output ++ run path text }
    | .error reason =>
      { done with status, errorOutput := done.errorOutput ++ complaint path reason }

/-- The texts of files in one, for `run`, with messages about those that cannot be
read. -/
def onTexts (invocation : Invocation) (operands : List (List Char))
    (complaint : List Char → String → List Char) (run : List Char → Finish) : Finish :=
  let done := onFiles invocation operands 1 complaint fun _ text => text
  let result := run done.output
  { result with
    status := max result.status done.status
    errorOutput := done.errorOutput ++ result.errorOutput }

/-- The texts of files in one, with messages in the usual form. -/
def onAllFiles (invocation : Invocation) (name : String) (operands : List (List Char))
    (run : List Char → Finish) : Finish :=
  onTexts invocation operands (fileFault name) run

/-! ## Lines -/

/-- The lines of a text without their ends; nothing behind the last end is no
line. -/
def linesOf (text : List Char) : List (List Char) :=
  let (first, others) := text.foldr (fun c (current, lines) =>
    if c = '\n' then ([], current :: lines) else (c :: current, lines)) ([], [])
  let lines := first :: others
  if lines.getLast? = some [] then lines.dropLast else lines

/-- Lines with their ends. -/
def joinLines (lines : List (List Char)) : List Char :=
  lines.flatMap (· ++ ['\n'])

/-- A text with room before it. -/
def padFront (width : Nat) (text : List Char) : List Char :=
  List.replicate (width - text.length) ' ' ++ text

/-- A number in decimal digits. -/
def digits (number : Nat) : List Char :=
  Nat.toDigits 10 number

end TmuxLayout.Shell.Tool
