import TmuxLayout.Shell.Builtins.Basic

/-!
# Reading lines into variables

A line is split at the characters of `$IFS`, the last variable getting all that is
left. White space at the end is cut off there, and so is a separator if there is
only one of them and nothing behind it.

- `lineGlyphs`: the next line, with the characters that backslashes quote.
- `LineSplitting`: the fields of a line for a number of names.
- `Builtin.read`: reads a line into variables.
-/

namespace TmuxLayout.Shell

variable {σ : Type}

/-- The line at the begin of a text, what is behind it, and whether its end was
there. A backslash quotes the next character, and joins lines at their ends, unless
the line is read as it is. -/
def lineGlyphs (isRaw : Bool) : (quotes : Bool) → List Char → List Glyph × List Char × Bool
  | _, [] => ([], [], false)
  | quotes, c :: text =>
    let keep : List Glyph × List Char × Bool :=
      let (glyphs, rest) := lineGlyphs isRaw false text
      (⟨c, quotes⟩ :: glyphs, rest)
    if c = '\x00' then lineGlyphs isRaw quotes text
    else if quotes then if c = '\n' then lineGlyphs isRaw false text else keep
    else if c = '\n' then ([], text, true)
    else if c = '\\' && !isRaw then lineGlyphs isRaw true text
    else keep

/-- The fields of a line so far. -/
structure LineSplitting where
  /-- The fields that have ended, last one first. -/
  fields : List (List Char)
  /-- The field that has begun, last character first. -/
  current : List Char
  /-- The same without what is to be cut off at its end, if anything is. -/
  cut : Option (List Char)
  /-- Whether white space has just ended a field. -/
  afterBlank : Bool
  /-- How many fields may still end. -/
  count : Nat

namespace LineSplitting

/-- Takes a character in. Quoted ones are left alone. -/
def add (separators : List Char) (splitting : LineSplitting) (glyph : Glyph) : LineSplitting :=
  let c := glyph.char
  let longer := { splitting with current := c :: splitting.current }
  let separates := !glyph.quoted && separators.contains c
  let isBlank := separates && (c = ' ' || c = '\t' || c = '\n')
  if glyph.quoted then { longer with afterBlank := false }
  else if splitting.count = 0 then
    if isBlank then { longer with cut := splitting.cut.or (some splitting.current) }
    else { longer with
      cut := if separates && splitting.afterBlank then splitting.cut else none
      afterBlank := false }
  else if !separates then { longer with afterBlank := false }
  else if splitting.afterBlank then { splitting with afterBlank := isBlank }
  else if isBlank && splitting.current.isEmpty then splitting
  else if splitting.count = 1 then
    { longer with cut := some splitting.current, count := 0, afterBlank := isBlank }
  else ⟨splitting.current.reverse :: splitting.fields, [], none, isBlank, splitting.count - 1⟩

/-- All fields; an empty text at the end is none. -/
def all (splitting : LineSplitting) : List (List Char) :=
  let last := (splitting.cut.getD splitting.current).reverse
  splitting.fields.reverse ++ if last.isEmpty then [] else [last]

end LineSplitting

/-- The fields of a line, `count` of them at most. -/
def lineFields (separators : List Char) (count : Nat) (line : List Glyph) : List (List Char) :=
  (line.foldl (LineSplitting.add separators) ⟨[], [], none, false, count⟩).all

namespace Builtin

/-- Gives fields to names; names without a field get an empty text. -/
def assignFields : List (List Char) → List (List Char) → Run σ Unit
  | [], _ => return ()
  | name :: names, fields => do
    Run.assignChecked name (fields.headD [])
    assignFields names fields.tail

/-- Reads a line into variables. A prompt would be shown on a terminal only. -/
def read : Builtin σ := fun arguments => do
  let (options, names) ← options "r" "p" arguments
  if names.isEmpty then Run.fail (ofText "arg count")
  let isRaw := options.any fun (letter, _) => letter = 'r'
  let (line, isWhole) ← match ← Run.channel? 0 with
    | some channel => do
      let (line, rest, isWhole) := lineGlyphs isRaw false (← Run.textOf channel)
      Run.setText channel rest
      pure (line, isWhole)
    | none => pure ([], false)
  assignFields names (lineFields (← separators) names.length line)
  return statusOf isWhole

end Builtin

end TmuxLayout.Shell
