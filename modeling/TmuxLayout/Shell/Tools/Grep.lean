import TmuxLayout.Shell.Tools.Basic
import TmuxLayout.Shell.Tools.RegularExpression.Reading

/-!
# Searching lines

- `Search.selects`: which lines are meant.
- `SearchReport.show`: what is shown of a text.
- `Tool.grep`: passes the lines on that an expression fits, or tells about them.
-/

namespace TmuxLayout.Shell.Tool

/-- What lines are searched for. -/
structure Search where
  expression : RegularExpression
  ignoresCase : Bool
  /-- Whether the lines are meant that the expression does not fit. -/
  isInverted : Bool

/-- Whether a line is meant. -/
def Search.selects (search : Search) (line : List Char) : Bool :=
  (search.expression.find? search.ignoresCase line).isSome != search.isInverted

/-- The texts in a line that an expression fits, with how many characters are before
them; the steps are bounded. -/
def fittingTexts (ignoresCase : Bool) (expression : RegularExpression) :
    Nat → (passed line : List Char) → List (Nat × List Char)
  | 0, _, _ => []
  | steps + 1, passed, line =>
    match expression.findFrom ignoresCase passed line with
    | none => []
    | some found =>
      let passed := found.text.reverse ++ found.before.reverse
      if found.text.isEmpty then
        match found.behind with
        | c :: rest => fittingTexts ignoresCase expression steps (c :: passed) rest
        | [] => []
      else
        (found.before.length, found.text) ::
          fittingTexts ignoresCase expression steps passed found.behind

/-! ## Reports -/

/-- A line of a text, as it is searched. -/
structure SearchLine where
  text : List Char
  number : Nat
  /-- How many characters are before it. -/
  offset : Nat
  isMeant : Bool

/-- The lines of a text, of which no more than `most` are meant. -/
def searchLines (search : Search) : (most : Option Nat) → (number offset : Nat) →
    List (List Char) → List SearchLine
  | _, _, _, [] => []
  | most, number, offset, text :: lines =>
    let isMeant := most ≠ some 0 && search.selects text
    ⟨text, number, offset, isMeant⟩ ::
      searchLines search (if isMeant then most.map (· - 1) else most) (number + 1)
        (offset + text.length + 1) lines

/-- How lines are shown. -/
structure SearchReport where
  /-- The name before each line, if there is one. -/
  name : Option (List Char)
  /-- How many lines are shown before and behind those that are meant. -/
  before : Nat
  behind : Nat
  most : Option Nat
  chosen : Chosen

/-- What stands before a line; `mark` tells lines that are meant from others. -/
def SearchReport.head (report : SearchReport) (mark : Char) (number offset : Nat) : List Char :=
  report.name.elim [] (· ++ [mark]) ++
    (if report.chosen.has 'n' then digits number ++ [mark] else []) ++
    if report.chosen.has 'b' then digits offset ++ [mark] else []

/-- The lines that are meant with those around them, and a mark where some are left
out in between. -/
def SearchReport.surrounded (report : SearchReport) (lines : List SearchLine) : List Char :=
  let meant := (lines.filter (·.isMeant)).map (·.number)
  let isNear (line : SearchLine) : Bool := meant.any fun number =>
    number ≤ line.number + report.before && line.number ≤ number + report.behind
  let shown := lines.filter isNear
  let hasMarks := report.before > 0 || report.behind > 0
  (shown.zip (none :: shown.map (some ·.number))).flatMap fun (line, previous) =>
    (if hasMarks && previous.any (· + 1 < line.number) then ['-', '-', '\n'] else []) ++
      report.head (if line.isMeant then ':' else '-') line.number line.offset ++ line.text ++ ['\n']

/-- What is shown of a text, and whether a line of it was meant. -/
def SearchReport.show (report : SearchReport) (search : Search) (path text : List Char) :
    List Char × Bool :=
  let chosen := report.chosen
  let lines := searchLines search report.most 1 0 (linesOf text)
  let selected := lines.filter (·.isMeant)
  let isFound := !selected.isEmpty
  let output :=
    if chosen.has 'q' then []
    else if chosen.has 'l' then if isFound then path ++ ['\n'] else []
    else if chosen.has 'L' then if isFound then [] else path ++ ['\n']
    else if chosen.has 'c' then
      report.name.elim [] (· ++ [':']) ++ digits selected.length ++ ['\n']
    else if chosen.has 'o' then
      if search.isInverted then []
      else selected.flatMap fun line =>
        (fittingTexts search.ignoresCase search.expression (line.text.length + 1) [] line.text).flatMap
          fun (start, text) => report.head ':' line.number (line.offset + start) ++ text ++ ['\n']
    else report.surrounded lines
  (output, if chosen.has 'L' then !isFound else isFound)

/-! ## Programs -/

/-- How the program is called. -/
def grepUsage : List Char :=
  ofText "Usage: grep [OPTION]... PATTERNS [FILE]...\n" ++ helpLine "grep"

/-- The status after a fault. -/
def grepFault : Nat := 2

/-- The expression of a pattern. -/
def searchExpression (chosen : Chosen) (style : RegularExpression.Style) (fixed : Bool)
    (pattern : List Char) : Except RegularExpression.Fault RegularExpression := do
  let plain ← if fixed then .ok (.ofText pattern) else RegularExpression.read style pattern
  if chosen.has 'x' then return .both (.lineStart false) (.both plain (.lineEnd false))
  else if chosen.has 'w' then return .both .noWordBefore (.both plain .noWordBehind)
  else return plain

/-- The expression that fits whatever one of some expressions does. -/
def anyOf : List RegularExpression → RegularExpression
  | [] => .single (.range false [])
  | [expression] => expression
  | expression :: others => .either expression (anyOf others)

/-- The arguments with `-C` for a hyphen and a number, and without those about colours
that ask for none. -/
def withContextLetter (arguments : List (List Char)) : List (List Char) :=
  let isPlain (argument : List Char) : Bool :=
    ["--color", "--color=auto", "--color=never", "--colour", "--colour=auto", "--colour=never"].contains
      (Run.shown argument)
  (arguments.filter (!isPlain ·)).map fun
    | '-' :: digit :: digits =>
      if (digit :: digits).all Char.isDigit then '-' :: 'C' :: digit :: digits
      else '-' :: digit :: digits
    | argument => argument

/-- The patterns that are asked for, and the other arguments; none if there are no
patterns. -/
def searchPatterns (invocation : Invocation) (chosen : Chosen) :
    Except (List Char) (Option (List (List Char)) × List (List Char)) := do
  let given ← (chosen.options.filter fun (letter, _) => letter = 'e' || letter = 'f').mapM
    fun (letter, text) =>
      if letter = 'e' then .ok (FilePath.splitAt '\n' text)
      else match operandText invocation text with
        | .ok held => .ok (linesOf held)
        | .error reason => .error (text ++ ofText (": " ++ reason))
  match given, chosen.operands with
  | [], pattern :: operands => return (some (FilePath.splitAt '\n' pattern), operands)
  | [], [] => return (none, [])
  | given, operands => return (some given.flatten, operands)

/-- Searches files for patterns; `extended` and `fixed` say how these are written
unless options do. -/
def grepIn (invocation : Invocation) (extended fixed : Bool) : Finish :=
  let letters : Letters := ⟨"EFGPivyxwcnqsloLhHrRazZTUub", "efmABC", [("extended-regexp", 'E'),
    ("fixed-strings", 'F'), ("basic-regexp", 'G'), ("ignore-case", 'i'), ("invert-match", 'v'),
    ("line-regexp", 'x'), ("word-regexp", 'w'), ("count", 'c'), ("line-number", 'n'), ("quiet", 'q'),
    ("silent", 'q'), ("no-messages", 's'), ("files-with-matches", 'l'), ("files-without-match", 'L'),
    ("only-matching", 'o'), ("no-filename", 'h'), ("with-filename", 'H'), ("regexp", 'e'),
    ("file", 'f'), ("max-count", 'm'), ("text", 'a'), ("byte-offset", 'b'), ("after-context", 'A'),
    ("before-context", 'B'), ("context", 'C')]⟩
  let failed (text : List Char) : Finish := fail grepFault "grep" text
  match readOptions letters false (withContextLetter invocation.arguments) with
  | .error fault => aside (finish grepFault [] (message "grep" fault.message ++ grepUsage))
  | .ok chosen =>
    let around := chosen.options.filter fun (letter, _) => ['A', 'B', 'C'].contains letter
    match around.find? fun (_, text) => (decimal? text).isNone, chosen.value? 'm' with
    | some (_, text), _ => failed (text ++ ofText ": invalid context length argument")
    | none, most =>
      let ways := (chosen.options.map fun (letter, _) => letter).filter ['E', 'F', 'G', 'P'].contains
      if most.any fun text => (decimal? text).isNone then failed (ofText "invalid max count")
      else if ways.any (some · ≠ ways.head?) then failed (ofText "conflicting matchers specified")
      else
        let extended := ways.head?.elim extended fun letter => letter == 'E' || letter == 'P'
        let fixed := ways.head?.elim fixed fun letter => letter == 'F'
        match searchPatterns invocation chosen with
        | .error text => failed text
        | .ok (none, _) => aside (finish grepFault [] grepUsage)
        | .ok (some patterns, operands) =>
          match patterns.mapM (searchExpression chosen ⟨extended, true⟩ fixed) with
          | .error fault => failed (ofText fault.message)
          | .ok expressions =>
            let search : Search := ⟨anyOf expressions, chosen.has 'i' || chosen.has 'y', chosen.has 'v'⟩
            let warnings := (expressions.flatMap (·.idleCounts)).flatMap fun counts =>
              message "grep" (ofText "warning: " ++ counts ++ ofText " at start of expression")
            let showsNames := (operands.length > 1 || chosen.has 'H') && !chosen.has 'h'
            let count (letter : Char) : Nat :=
              ((chosen.value? letter).or (chosen.value? 'C') |>.bind decimal?).getD 0
            let shown (path : List Char) : List Char :=
              if path = ['-'] then ofText "(standard input)" else path
            let report (path text : List Char) : List Char × Bool :=
              SearchReport.show ⟨if showsNames then some (shown path) else none, count 'B', count 'A',
                most.bind decimal?, chosen⟩ search (shown path) text
            let showsLines := !(['q', 'l', 'L', 'c', 'a', 'z'].any chosen.has)
            let isHidden (text : List Char) : Bool := showsLines && text.contains '\x00'
            let complaint (path : List Char) (reason : String) : List Char :=
              if chosen.has 's' then [] else message "grep" (path ++ ofText (": " ++ reason))
            let done := onFiles invocation operands grepFault complaint fun path text =>
              if isHidden text then [] else (report path text).1
            let read := (operandsOrInput operands).filterMap fun path =>
              (operandText invocation path).toOption.map (path, ·)
            let isFound := read.any fun (path, text) => (report path text).2
            let hints := (read.filter fun (path, text) => isHidden text && (report path text).2).flatMap
              fun (path, _) => message "grep" (shown path ++ ofText ": binary file matches")
            let status :=
              if isFound && (chosen.has 'q' || done.status = 0) then 0
              else if done.status ≠ 0 then done.status
              else 1
            { done with status, errorOutput := warnings ++ done.errorOutput ++ hints }

/-- Passes the lines on that an expression fits. -/
def grep (invocation : Invocation) : Finish :=
  grepIn invocation false false

/-- The same for expressions written in the extended way. -/
def egrep (invocation : Invocation) : Finish :=
  grepIn invocation true false

/-- The same for texts that stand for themselves. -/
def fgrep (invocation : Invocation) : Finish :=
  grepIn invocation false true

end TmuxLayout.Shell.Tool
