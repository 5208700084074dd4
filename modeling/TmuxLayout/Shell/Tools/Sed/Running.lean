import TmuxLayout.Shell.Tools.Lines
import TmuxLayout.Shell.Tools.Sed.Script

/-!
# Scripts run on lines

- `Edit.Editor`: what a script works on.
- `Substitution.apply`: a line with replacements.
- `Edit.run`: what a script makes of lines.
-/

namespace TmuxLayout.Shell.Tool.Edit

/-- A line of a file, and whether it has an end. -/
structure Line where
  text : List Char
  hasEnd : Bool
  file : List Char

/-- What a script works on. -/
structure Editor where
  /-- What ends lines. -/
  close : Char
  current : Line
  held : List Char
  number : Nat
  /-- The lines that are left. -/
  rest : List Line
  /-- What is written, last part first. -/
  output : List (List Char)
  /-- Whether the last line that was written still needs its end, if there is more. -/
  owesEnd : Bool
  /-- What is written behind the current line. -/
  queue : List (List Char)
  /-- The commands whose range of lines has begun, by their places, with its end. -/
  ranges : List (Nat × Address)
  substituted : Bool
  /-- What was searched for last. -/
  wanted : Option Wanted

/-! ## Lines and output -/

/-- The line to work on. -/
def Editor.line (editor : Editor) : List Char :=
  editor.current.text

/-- The editor with another line to work on. -/
def Editor.withLine (editor : Editor) (text : List Char) : Editor :=
  { editor with current := { editor.current with text } }

/-- Writes a text. -/
def Editor.write (editor : Editor) (text : List Char) : Editor :=
  if text.isEmpty then editor
  else
    let output := if editor.owesEnd then [editor.close] :: editor.output else editor.output
    { editor with output := text :: output, owesEnd := false }

/-- Writes a line, which has an end if the one that was read has one. -/
def Editor.put (editor : Editor) (text : List Char) : Editor :=
  if editor.current.hasEnd then editor.write (text ++ [editor.close])
  else
    let output := if editor.owesEnd then [editor.close] :: editor.output else editor.output
    { editor with output := text :: output, owesEnd := true }

/-- Writes what is to be written behind the current line. -/
def Editor.flush (editor : Editor) : Editor :=
  { editor.queue.foldl Editor.write editor with queue := [] }

/-- Takes the next line, if there is one. -/
def Editor.next? (editor : Editor) : Option Editor :=
  match editor.rest with
  | line :: rest => some { editor with current := line, rest, number := editor.number + 1 }
  | [] => none

/-! ## Addresses -/

/-- What is searched for and the editor that keeps it in mind; none if nothing was
searched for before. -/
def Editor.wants (editor : Editor) (wanted : Wanted) :
    Option (RegularExpression × Bool × Editor) :=
  let wanted? := if wanted.expression.isSome then some wanted else editor.wanted
  wanted?.bind fun wanted => wanted.expression.map fun expression =>
    (expression, wanted.ignoresCase, { editor with wanted := some wanted })

/-- Whether an address means the current line; none if it asks for what was searched
for before and there is no such thing. -/
def Address.holds (address : Address) (editor : Editor) : Option (Bool × Editor) :=
  match address with
  | line number => some (editor.number = number, editor)
  | last => some (editor.rest.isEmpty, editor)
  | fits wanted => (editor.wants wanted).map fun (expression, ignoresCase, editor) =>
    ((expression.find? ignoresCase editor.line).isSome, editor)
  | every first step =>
    some (if step = 0 then editor.number = first
      else first ≤ editor.number && (editor.number - first) % step = 0, editor)
  | after _ | multiple _ => some (false, editor)

/-- The end of a range that begins at some line. -/
def Address.fromLine (address : Address) (number : Nat) : Address :=
  match address with
  | after count => .line (number + count)
  | multiple factor =>
    .line (if factor = 0 then number else (number / factor + 1) * factor)
  | other => other

/-- Whether a command at a place is meant for the current line. -/
def Instruction.applies (instruction : Instruction) (place : Nat) (editor : Editor) :
    Option (Bool × Editor) := do
  let (holds, editor) ← match instruction.from?, instruction.to? with
    | none, _ => some (true, editor)
    | some address, none => address.holds editor
    | some first, some final =>
      let others := editor.ranges.filter (·.1 ≠ place)
      let ends (editor : Editor) : Editor := { editor with ranges := others }
      match editor.ranges.lookup place with
      | some (.line number) =>
        if editor.number < number then some (true, editor)
        else some (editor.number = number, ends editor)
      | some address => do
        let (isEnd, editor) ← address.holds editor
        some (true, if isEnd then ends editor else editor)
      | none => do
        let (isBegin, editor) ← first.holds editor
        let final := final.fromLine editor.number
        let begins : Editor := { editor with ranges := (place, final) :: others }
        match isBegin, final with
        | false, _ => some (false, editor)
        | true, .line number => some (true, if number > editor.number then begins else editor)
        | true, _ => some (true, begins)
  return (holds != instruction.isNegated, editor)

/-! ## Substitutions -/

/-- A letter as it is to be written. -/
def LetterCase.apply (letterCase : LetterCase) (c : Char) : Char :=
  match letterCase with
  | asGiven => c
  | upper => c.toUpper
  | lower => c.toLower

/-- What is put in the place of a text that was found. -/
def replacement (found : RegularExpression.Match) :
    (all : LetterCase) → (next : Option LetterCase) → List Part → List Char
  | _, _, [] => []
  | _, _, .letters letterCase :: parts => replacement found letterCase none parts
  | all, _, .nextLetter letterCase :: parts => replacement found all (some letterCase) parts
  | all, next, part :: parts =>
    let text := match part with
      | .text text => text
      | .group 0 => found.text
      | .group number => (found.groups.lookup number).getD []
      | _ => []
    match text with
    | [] => replacement found all next parts
    | c :: rest =>
      (next.getD all).apply c :: rest.map all.apply ++ replacement found all none parts

/-- A line with replacements from some place of it on, and whether there are any;
`isBehind` says whether a text was found that ends here, behind which none without
characters is found. The steps are bounded. -/
def substituted (expression : RegularExpression) (ignoresCase : Bool) (parts : List Part)
    (all : Bool) : (steps place : Nat) → (isBehind : Bool) → (passed line : List Char) →
    List Char × Bool
  | 0, _, _, _, line => (line, false)
  | steps + 1, place, isBehind, passed, line =>
    match expression.findFrom ignoresCase passed line with
    | none => (line, false)
    | some found =>
      let before := found.before.drop passed.length
      let passed := found.text.reverse ++ found.before.reverse
      let goOn (place : Nat) (isBehind : Bool) (passed line : List Char) : List Char × Bool :=
        substituted expression ignoresCase parts all steps place isBehind passed line
      if isBehind && before.isEmpty && found.text.isEmpty then
        match found.behind with
        | c :: rest =>
          let (rest, isDone) := goOn place false (c :: passed) rest
          (c :: rest, isDone)
        | [] => ([], false)
      else
        let isMeant := place ≤ 1
        let text := if isMeant then replacement found .asGiven none parts else found.text
        if isMeant && !all then (before ++ text ++ found.behind, true)
        else if found.text.isEmpty then
          match found.behind with
          | c :: rest =>
            let (rest, isDone) := goOn (place - 1) false (c :: passed) rest
            (before ++ text ++ c :: rest, isMeant || isDone)
          | [] => (before ++ text, isMeant)
        else
          let (rest, isDone) := goOn (place - 1) true passed found.behind
          (before ++ text ++ rest, isMeant || isDone)

/-- The editor behind a substitution, and whether anything was replaced. -/
def Substitution.apply (substitution : Substitution) (editor : Editor) : Option (Bool × Editor) :=
  (editor.wants substitution.wanted).map fun (expression, ignoresCase, editor) =>
    let (line, isDone) := substituted expression ignoresCase substitution.parts substitution.all
      (editor.line.length + 2) substitution.place false [] editor.line
    if isDone then
      let editor := { editor.withLine line with substituted := true }
      (true, if substitution.prints then editor.put line else editor)
    else (false, editor)

/-! ## Lines to be seen -/

/-- A character as it is to be seen. -/
def plainChar (c : Char) : List Char :=
  match c with
  | '\\' => ['\\', '\\']
  | '\x07' => ['\\', 'a']
  | '\x08' => ['\\', 'b']
  | '\x0c' => ['\\', 'f']
  | '\n' => ['\\', 'n']
  | '\x0d' => ['\\', 'r']
  | '\t' => ['\\', 't']
  | '\x0b' => ['\\', 'v']
  | c =>
    if ' ' ≤ c && c ≤ '~' then [c]
    else
      let octal := Nat.toDigits 8 c.toNat
      '\\' :: List.replicate (3 - octal.length) '0' ++ octal

/-- A line with all of its characters to be seen, in lines of no more than `width`
characters; `column` characters are before it. -/
def plainLine (width column : Nat) : List Char → List Char
  | [] => ['$', '\n']
  | c :: rest =>
    let shown := plainChar c
    if width > 0 && column + shown.length > width - 1 then
      ['\\', '\n'] ++ shown ++ plainLine width shown.length rest
    else shown ++ plainLine width (column + shown.length) rest

/-! ## Scripts -/

/-- How the commands for a line end. -/
inductive LineEnd where
  /-- The line is written unless the script says otherwise. -/
  | usual
  | deleted
  /-- The commands are run again for what is left of the line. -/
  | again
  | quit (status : Nat) (silent : Bool)
  /-- Something was to be searched for again that never was before. -/
  | failed

/-- What a run of a script depends on. -/
structure Setting where
  script : Script
  silent : Bool
  /-- How wide lines are that are to be seen as a whole. -/
  width : Nat
  /-- What a file holds. -/
  content : List Char → List Char

/-- Runs commands from a place on for the current line; the steps are bounded. -/
def Setting.runLine (setting : Setting) : Nat → (place : Nat) → Editor → LineEnd × Editor
  | 0, _, editor => (.usual, editor)
  | steps + 1, place, editor =>
    match setting.script[place]? with
    | none => (.usual, editor)
    | some instruction =>
      let goOn (editor : Editor) : LineEnd × Editor := setting.runLine steps (place + 1) editor
      match instruction.applies place editor, instruction.action with
      | none, _ => (.failed, editor)
      | some (false, editor), .row count => setting.runLine steps (place + 1 + count) editor
      | some (false, editor), _ => goOn editor
      | some (true, editor), action =>
        match action with
        | .substitute substitution =>
          match substitution.apply editor with
          | some (_, editor) => goOn editor
          | none => (.failed, editor)
        | .print => goOn (editor.put editor.line)
        | .printFirst => goOn (editor.write (editor.line.takeWhile (· ≠ '\n') ++ ['\n']))
        | .printPlainly width =>
          goOn (editor.write (plainLine (width.getD setting.width) 0 editor.line))
        | .delete => (.deleted, editor)
        | .deleteFirst =>
          match editor.line.dropWhile (· ≠ '\n') with
          | _ :: rest => (.again, editor.withLine rest)
          | [] => (.deleted, editor)
        | .quit status isSilent => (.quit status isSilent, editor)
        | .number => goOn (editor.write (digits editor.number ++ ['\n']))
        | .fileName => goOn (editor.write (editor.current.file ++ ['\n']))
        | .exchange pairs =>
          goOn (editor.withLine (editor.line.map fun c => (pairs.lookup c).getD c))
        | .append text => goOn { editor with queue := editor.queue ++ [text] }
        | .appendFile path => goOn { editor with queue := editor.queue ++ [setting.content path] }
        | .insert text => goOn (editor.write text)
        | .change text =>
          let isLast := instruction.to?.isNone || (editor.ranges.lookup place).isNone
          (.deleted, if isLast then editor.write text else editor)
        | .next =>
          if editor.rest.isEmpty then (.quit 0 false, editor)
          else
            let editor := if setting.silent then editor else editor.put editor.line
            goOn (editor.flush.next?.getD editor)
        | .nextAppended =>
          match editor.flush.next? with
          | none => (.quit 0 false, editor)
          | some after => goOn (after.withLine (editor.line ++ ['\n'] ++ after.line))
        | .hold appends =>
          goOn { editor with
            held := if appends then editor.held ++ ['\n'] ++ editor.line else editor.line }
        | .get appends =>
          goOn (editor.withLine
            (if appends then editor.line ++ ['\n'] ++ editor.held else editor.held))
        | .swap => goOn { editor.withLine editor.held with held := editor.line }
        | .empty => goOn (editor.withLine [])
        | .branch label onSubstitution =>
          let goes := onSubstitution.all (· == editor.substituted)
          let editor :=
            if onSubstitution.isSome then { editor with substituted := false } else editor
          if goes then
            setting.runLine steps ((setting.script.place? label).getD setting.script.length) editor
          else goOn editor
        | .label _ | .row _ => goOn editor

/-- More commands than are run for any line. -/
def maxSteps : Nat := 10000000

/-- Runs a script on all lines that are left; the steps are bounded. Gives the
status if nothing failed, and what is left. -/
def Setting.runLines (setting : Setting) : Nat → Editor → Option Nat × Editor
  | 0, editor => (some 0, editor)
  | steps + 1, editor =>
    let (lineEnd, editor) := setting.runLine maxSteps 0 editor
    let usual (editor : Editor) : Editor :=
      (if setting.silent then editor else editor.put editor.line).flush
    let next (editor : Editor) : Option Nat × Editor :=
      match editor.next? with
      | some editor => setting.runLines steps { editor with substituted := false }
      | none => (some 0, editor)
    match lineEnd with
    | .usual => next (usual editor)
    | .deleted => next editor.flush
    | .again => setting.runLines steps editor.flush
    | .quit status true => (some status, editor)
    | .quit status false => (some status, usual editor)
    | .failed => (none, editor)

/-- The lines of a file. -/
def linesOfFile (close : Char) (file text : List Char) : List Line :=
  let parts := FilePath.splitAt close text
  let whole := parts.dropLast.map (⟨·, true, file⟩)
  match parts.getLast? with
  | none | some [] => whole
  | some part => whole ++ [⟨part, false, file⟩]

/-- The ranges that have begun before the first line. -/
def Script.openRanges (script : Script) : List (Nat × Address) :=
  script.zipIdx.filterMap fun (instruction, place) =>
    match instruction.from?, instruction.to? with
    | some (.line 0), some final => some (place, final)
    | _, _ => none

/-- Runs a script on the lines of files, given by their names and what they hold. Gives
the status if nothing failed, and what was written. -/
def Setting.run (setting : Setting) (close : Char) (files : List (List Char × List Char)) :
    Option Nat × List Char :=
  match files.flatMap fun (file, text) => linesOfFile close file text with
  | [] => (some 0, [])
  | first :: rest =>
    let editor : Editor :=
      ⟨close, first, [], 1, rest, [], false, [], setting.script.openRanges, false, none⟩
    let size := (files.map fun (_, text) => text.length).foldl (· + ·) 0
    let (status, editor) := setting.runLines (2 * size + 2) editor
    (status, editor.output.reverse.flatten)

end TmuxLayout.Shell.Tool.Edit
