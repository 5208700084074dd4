import TmuxLayout.Shell.Tools.Basic

/-!
# Programs that pass text on

- `Tool.cat`, `Tool.tac`, `Tool.rev`, `Tool.nl`, `Tool.tee`: all of it.
- `Tool.head`, `Tool.tail`: the begin or the end.
- `Tool.wc`: how much of it there is.
-/

namespace TmuxLayout.Shell.Tool

/-- Lines with their ends; the last one may have none. -/
def wholeLines (text : List Char) : List (List Char) :=
  let (first, others) := text.foldr (fun c (current, lines) =>
    if c = '\n' then ([c], if current.isEmpty then lines else current :: lines)
    else (c :: current, lines)) ([], [])
  if first.isEmpty then others else first :: others

/-- A line without its end. -/
def withoutEnd (line : List Char) : List Char :=
  if line.getLast? = some '\n' then line.dropLast else line

/-! ## All of the text -/

/-- A character as it is shown where some cannot be printed. -/
def shownChar (c : Char) : List Char :=
  let low (n : Nat) : List Char :=
    if n < 32 then ['^', Char.ofNat (n + 64)] else if n = 127 then ['^', '?'] else [Char.ofNat n]
  if c.toNat < 128 then low c.toNat else ['M', '-'] ++ low (c.toNat - 128)

/-- A line as `cat` shows it. -/
def shownLine (chosen : Chosen) (line : List Char) : List Char :=
  let has (letters : String) : Bool := letters.toList.any chosen.has
  line.flatMap fun c =>
    if c = '\n' then if has "AeE" then ['$', '\n'] else ['\n']
    else if c = '\t' then if has "AtT" then ['^', 'I'] else ['\t']
    else if has "Aetv" then shownChar c
    else [c]

/-- Lines with numbers before them; all lines have one, or those that are not
empty. -/
def numbered (all : Bool) (number : Nat) : List (List Char) → List (List Char)
  | [] => []
  | line :: lines =>
    if all || line ≠ ['\n'] then
      (padFront 6 (digits number) ++ ['\t'] ++ line) :: numbered all (number + 1) lines
    else line :: numbered all number lines

/-- Lines with one empty line in place of several. -/
def squeezed : List (List Char) → List (List Char)
  | [] => []
  | line :: lines =>
    if line = ['\n'] && lines.head? = some ['\n'] then squeezed lines else line :: squeezed lines

/-- Passes its input or files on. -/
def cat (invocation : Invocation) : Finish :=
  let letters : Letters := ⟨"AbeEnstTuv", "", [("show-all", 'A'), ("number-nonblank", 'b'),
    ("show-ends", 'E'), ("number", 'n'), ("squeeze-blank", 's'), ("show-tabs", 'T'),
    ("show-nonprinting", 'v')]⟩
  withOptions "cat" letters invocation fun chosen =>
    onAllFiles invocation "cat" chosen.operands fun text =>
      if chosen.options.isEmpty then write text
      else
        let lines := wholeLines text
        let lines := if chosen.has 's' then squeezed lines else lines
        let shown (line : List Char) : List Char := shownLine chosen line
        if chosen.has 'b' then write ((numbered false 1 lines).flatMap shown)
        else if chosen.has 'n' then write ((numbered true 1 lines).flatMap shown)
        else write (lines.flatMap shown)

/-- Passes lines on, the last one first. -/
def tac (invocation : Invocation) : Finish :=
  withOptions "tac" ⟨"", "", []⟩ invocation fun chosen =>
    let complaint (path : List Char) (reason : String) : List Char :=
      message "tac" (if reason = "Is a directory" then
        clearName path ++ ofText ": read error: Invalid argument"
        else ofText "failed to open " ++ quotedName path ++ ofText (" for reading: " ++ reason))
    onTexts invocation chosen.operands complaint fun text => write (wholeLines text).reverse.flatten

/-- Passes lines on, each from its end to its begin. -/
def rev (invocation : Invocation) : Finish :=
  withOptions "rev" ⟨"", "", []⟩ invocation fun chosen =>
    let complaint (path : List Char) (reason : String) : List Char :=
      message "rev" (if reason = "Is a directory" then path ++ ofText (": " ++ reason)
        else ofText "cannot open " ++ path ++ ofText (": " ++ reason))
    onTexts invocation chosen.operands complaint fun text =>
      write ((wholeLines text).flatMap fun line =>
        let text := (withoutEnd line).reverse
        if line.getLast? = some '\n' then text ++ ['\n'] else text)

/-- Passes lines on with numbers before those that are not empty. -/
def nl (invocation : Invocation) : Finish :=
  withOptions "nl" ⟨"", "b", [("body-numbering", 'b')]⟩ invocation fun chosen =>
    onAllFiles invocation "nl" chosen.operands fun text =>
      let all := chosen.value? 'b' = some ['a']
      let lines := (linesOf text).map (· ++ ['\n'])
      let room (line : List Char) : List Char :=
        if line = ['\n'] then List.replicate 7 ' ' ++ line else line
      write ((numbered all 1 lines).flatMap room)

/-- Passes its input on and writes it to files too. -/
def tee (invocation : Invocation) : Finish :=
  withOptions "tee" ⟨"ai", "", [("append", 'a'), ("ignore-interrupts", 'i')]⟩ invocation fun chosen =>
    let (tree, faults) := chosen.operands.foldl (fun (tree, faults) path =>
      match writeFault? invocation tree path with
      | some reason => (tree, faults ++ fileFault "tee" path reason)
      | none =>
        let old := match entryIn invocation tree path with
          | .ok (.file octets) => if chosen.has 'a' then octets else []
          | _ => []
        (tree.write invocation.directory (Run.shown path) (old ++ Run.octetsOf invocation.input),
          faults)) (invocation.tree, [])
    { finish (if faults.isEmpty then 0 else 1) invocation.input faults with
      changes := if chosen.operands.isEmpty then none else some tree }

/-! ## The begin and the end -/

/-- How much is passed on: a number of lines or octets, from the begin or without
those at the other end. -/
structure Amount where
  isOctets : Bool
  count : Nat
  /-- The sign before the number. -/
  sign : Option Char

/-- Reads an amount; letters may follow for multiples. -/
def amount? (isOctets : Bool) (text : List Char) : Option Amount :=
  let (sign, number) := match text with
    | '-' :: rest => (some '-', rest)
    | '+' :: rest => (some '+', rest)
    | rest => (none, rest)
  let (number, factor) := match number.getLast? with
    | some 'k' | some 'K' => (number.dropLast, 1024)
    | some 'b' => (number.dropLast, 512)
    | some 'M' => (number.dropLast, 1048576)
    | _ => (number, 1)
  (decimal? number).map fun count => ⟨isOctets, count * factor, sign⟩

/-- The arguments with `-n` for a hyphen and a number. -/
def withCountLetter (arguments : List (List Char)) : List (List Char) :=
  match arguments with
  | ('-' :: digit :: digits) :: rest =>
    if (digit :: digits).all Char.isDigit then ['-', 'n'] :: (digit :: digits) :: rest else arguments
  | arguments => arguments

/-- Runs a program that passes a part of files on. -/
def onParts (name : String) (invocation : Invocation) (part : Amount → List Char → List Char) :
    Finish :=
  let letters : Letters := ⟨"qvz", "nc", [("lines", 'n'), ("bytes", 'c'), ("quiet", 'q'),
    ("silent", 'q'), ("verbose", 'v')]⟩
  let invocation := { invocation with arguments := withCountLetter invocation.arguments }
  withOptions name letters invocation fun chosen =>
    let (isOctets, text) := match chosen.options.reverse.find? fun (c, _) => c = 'n' || c = 'c' with
      | some (letter, value) => (letter == 'c', value)
      | none => (false, ['1', '0'])
    match amount? isOctets text with
    | none =>
      fail 1 name (ofText (if isOctets then "invalid number of bytes: " else
        "invalid number of lines: ") ++ quotedValue text)
    | some amount =>
      let hasHeads := chosen.has 'v' || (chosen.operands.length > 1 && !chosen.has 'q')
      let first := chosen.operands.head?
      let complaint (path : List Char) (reason : String) : List Char :=
        if reason = "Is a directory" then
          message name (ofText "error reading " ++ quotedName path ++ ofText (": " ++ reason))
        else
          message name (ofText "cannot open " ++ quotedName path ++ ofText (" for reading: " ++ reason))
      onFiles invocation chosen.operands 1 complaint fun path text =>
        let shown := if path = ['-'] then ofText "standard input" else path
        let head :=
          if hasHeads then
            (if first = some path || first.isNone then [] else ['\n']) ++ ofText "==> " ++ shown ++
              ofText " <==\n"
          else []
        head ++ part amount text

/-- Passes the begin of its input or of files on. -/
def head (invocation : Invocation) : Finish :=
  onParts "head" invocation fun amount text =>
    if amount.isOctets then
      text.take (if amount.sign = some '-' then text.length - amount.count else amount.count)
    else
      let lines := wholeLines text
      (lines.take (if amount.sign = some '-' then lines.length - amount.count else amount.count)).flatten

/-- Passes the end of its input or of files on. -/
def tail (invocation : Invocation) : Finish :=
  onParts "tail" invocation fun amount text =>
    if amount.isOctets then
      text.drop (if amount.sign = some '+' then amount.count - 1 else text.length - amount.count)
    else
      let lines := wholeLines text
      (lines.drop (if amount.sign = some '+' then amount.count - 1 else lines.length - amount.count)).flatten

/-! ## Counts -/

/-- How many words there are in a text. -/
def wordCount (text : List Char) : Nat :=
  (text.foldl (fun (count, inWord) c =>
    let isWord := !Numeral.isSpace c
    (if isWord && !inWord then count + 1 else count, isWord)) (0, false)).1

/-- The counts of a text that are asked for. -/
def countsOf (chosen : Chosen) (text : List Char) : List Nat :=
  let has (letter : Char) : Bool :=
    chosen.has letter || (chosen.options.isEmpty && ['l', 'w', 'c'].contains letter)
  let count (letter : Char) (number : Nat) : List Nat := if has letter then [number] else []
  count 'l' (text.count '\n') ++ count 'w' (wordCount text) ++ count 'm' text.length ++
    count 'c' text.length ++ count 'L' (((linesOf text).map List.length).foldl max 0)

/-- Counts lines, words and octets of its input or of files. -/
def wc (invocation : Invocation) : Finish :=
  let letters : Letters := ⟨"clmwL", "", [("bytes", 'c'), ("chars", 'm'), ("lines", 'l'),
    ("words", 'w'), ("max-line-length", 'L')]⟩
  withOptions "wc" letters invocation fun chosen =>
    let operands := operandsOrInput chosen.operands
    let texts := operands.map fun path => (path, operandText invocation path)
    let isDirectory (text : Except String (List Char)) : Bool :=
      text matches .error "Is a directory"
    let found := texts.filterMap fun (path, text) =>
      if isDirectory text then some (path, []) else text.toOption.map (path, ·)
    let sizes := (found.filter fun (path, _) => path ≠ ['-']).foldl (fun sum (_, text) =>
      sum + text.length) 0
    let isUneven := operands.contains ['-'] || texts.any fun (_, text) => isDirectory text
    let isOne := operands.length = 1 && (countsOf chosen []).length = 1
    let width := if isOne then 1 else max (digits sizes).length (if isUneven then 7 else 1)
    let line (counts : List Nat) (name : List Char) : List Char :=
      [' '].intercalate (counts.map fun count => padFront width (digits count)) ++
        (if name.isEmpty then [] else ' ' :: name) ++ ['\n']
    let add (a b : List Nat) : List Nat := if a.isEmpty then b else (a.zip b).map fun (m, n) => m + n
    let total := (found.map fun (_, text) => countsOf chosen text).foldl add []
    let lines := found.flatMap fun (path, text) =>
      line (countsOf chosen text) (if chosen.operands.isEmpty then [] else path)
    let faults := texts.flatMap fun (path, text) =>
      match text with
      | .ok _ => []
      | .error reason =>
        if path.isEmpty then message "wc" (ofText "invalid zero-length file name")
        else fileFault "wc" path reason
    let total := if total.isEmpty then (countsOf chosen []).map fun _ => 0 else total
    finish (if faults.isEmpty then 0 else 1)
      (lines ++ if operands.length > 1 then line total (ofText "total") else []) faults

end TmuxLayout.Shell.Tool
