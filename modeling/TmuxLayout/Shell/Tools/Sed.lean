import TmuxLayout.Shell.Tools.Sed.Reading
import TmuxLayout.Shell.Tools.Sed.Running

/-!
# Editing lines

- `Tool.sed`: edits its input or files by a script.
-/

namespace TmuxLayout.Shell.Tool

/-- How the program is called. -/
def sedUsage : List Char :=
  ofText "Usage: sed [OPTION]... \x7bscript-only-if-no-other-script\x7d [input-file]...\n"

/-- The status after a fault that ends the program at once. -/
def sedFault : Nat := 4

/-- The parts of the script, and the other arguments; none if there is no script. -/
def scriptParts (invocation : Invocation) (chosen : Chosen) :
    Except (List Char) (Option (List (List Char)) × List (List Char)) := do
  let given ← (chosen.options.filter fun (letter, _) => letter = 'e' || letter = 'f').mapM
    fun (letter, text) =>
      if letter = 'e' then .ok text
      else match operandText invocation text with
        | .ok held => .ok (withoutEnd held)
        | .error reason => .error (ofText "couldn't open file " ++ text ++ ofText (": " ++ reason))
  match given, chosen.operands with
  | [], script :: operands => return (some [script], operands)
  | [], [] => return (none, [])
  | given, operands => return (some given, operands)

/-- Runs a script on some files together, and says what failed. -/
def editTogether (setting : Edit.Setting) (close : Char) (files : List (List Char × List Char)) :
    Finish :=
  match setting.run close files with
  | (some status, output) => finish status output []
  | (none, output) =>
    finish 1 output (message "sed" (ofText "-e expression #1, char 0: no previous regular expression"))

/-- Edits files in their places; behind the name of a file with what it held comes
`suffix`, if that is not empty. -/
def editInPlace (invocation : Invocation) (setting : Edit.Setting) (close : Char)
    (suffix : List Char) (operands : List (List Char)) : Finish :=
  let start := write []
  operands.foldl (fun done path =>
    let tree := done.changes.getD invocation.tree
    match content { invocation with tree } path with
    | .ok text =>
      let result := editTogether setting close [(path, text)]
      let put (tree : FileTree) (path text : List Char) : FileTree :=
        tree.write invocation.directory (Run.shown path) (Run.octetsOf text)
      let tree := if suffix.isEmpty then tree else put tree (path ++ suffix) text
      { done with
        changes := some (put tree path result.output)
        status := max done.status result.status
        errorOutput := done.errorOutput ++ result.errorOutput }
    | .error reason =>
      if reason = "Is a directory" then
        { done with
          status := sedFault
          errorOutput := done.errorOutput ++
            message "sed" (ofText "couldn't edit " ++ path ++ ofText ": not a regular file") }
      else
        { done with
          status := max done.status 2
          errorOutput := done.errorOutput ++
            message "sed" (ofText "can't read " ++ path ++ ofText (": " ++ reason)) }) start

/-- Edits files one behind the other, or each for itself. -/
def editFiles (invocation : Invocation) (setting : Edit.Setting) (close : Char) (separate : Bool)
    (operands : List (List Char)) : Finish :=
  let texts := (operandsOrInput operands).map fun path => (path, operandText invocation path)
  let isDirectory (entry : List Char × Except String (List Char)) : Bool :=
    match entry.2 with
    | .error reason => reason = "Is a directory"
    | .ok _ => false
  let reached := texts.takeWhile fun entry => !isDirectory entry
  let files := reached.filterMap fun (path, text) => text.toOption.map (path, ·)
  let complaints := reached.flatMap fun (path, text) =>
    match text with
    | .ok _ => []
    | .error reason => message "sed" (ofText "can't read " ++ path ++ ofText (": " ++ reason))
  let broken := (texts.find? isDirectory).map fun (path, _) =>
    message "sed" (ofText "read error on " ++ path ++ ofText ": Is a directory")
  let results := (if separate then files.map ([·]) else [files]).map (editTogether setting close)
  let status := (results.map Finish.status).foldl max (if complaints.isEmpty then 0 else 2)
  let outputs := (results.map Finish.output).filter (!·.isEmpty)
  let output := outputs.foldl (fun done output =>
    if done.isEmpty || done.getLast? = some close then done ++ output
    else done ++ [close] ++ output) []
  finish (if broken.isSome then sedFault else status) output
    (complaints ++ results.flatMap Finish.errorOutput ++ broken.getD [])

/-- Arguments with `-I` for the letter of an option that a suffix follows. -/
def withSuffixLetter (arguments : List (List Char)) : List (List Char) :=
  arguments.map fun
    | '-' :: 'i' :: c :: suffix => '-' :: 'I' :: c :: suffix
    | argument =>
      match Text.after? (ofText "--in-place=") argument with
      | some suffix => '-' :: 'I' :: suffix
      | none => argument

/-- Edits its input or files by a script. -/
def sed (invocation : Invocation) : Finish :=
  let letters : Letters := ⟨"nErsizup", "efIl", [("quiet", 'n'), ("silent", 'n'), ("expression", 'e'),
    ("file", 'f'), ("regexp-extended", 'E'), ("in-place", 'i'), ("separate", 's'), ("posix", 'p'),
    ("null-data", 'z'), ("unbuffered", 'u'), ("line-length", 'l')]⟩
  match readOptions letters false (withSuffixLetter invocation.arguments) with
  | .error fault => aside (finish 1 [] (message "sed" fault.message ++ sedUsage))
  | .ok chosen =>
    match scriptParts invocation chosen with
    | .error text => fail sedFault "sed" text
    | .ok (none, _) => aside (finish 1 [] sedUsage)
    | .ok (some parts, operands) =>
      match Edit.read (chosen.has 'E' || chosen.has 'r') parts with
      | .error (cause, number, count) =>
        if cause = RegularExpression.Fault.looseClass.message then fail sedFault "sed" (ofText cause)
        else fail 1 "sed" (ofText ("-e expression #" ++ toString number ++ ", char " ++
          toString count ++ ": " ++ cause))
      | .ok script =>
        match script.targets.find? fun label => (script.place? label).isNone with
        | some label =>
          fail sedFault "sed" (ofText "can't find label for jump to \x60" ++ label ++ ofText "'")
        | none =>
          let begins := (parts.head?.any fun part => (Text.after? ['#', 'n'] part).isSome)
          let setting : Edit.Setting :=
            ⟨script, chosen.has 'n' || begins, ((chosen.value? 'l').bind decimal?).getD 70,
              fun path => (content invocation path).toOption.getD []⟩
          let close := if chosen.has 'z' then '\x00' else '\n'
          if chosen.has 'i' || chosen.has 'I' then
            if operands.isEmpty then fail sedFault "sed" (ofText "no input files")
            else aside (editInPlace invocation setting close ((chosen.value? 'I').getD []) operands)
          else editFiles invocation setting close (chosen.has 's') operands

end TmuxLayout.Shell.Tool
