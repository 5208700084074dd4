import TmuxLayout.Yaml.Folding

/-!
# Block scalars

A block scalar is a header and the indented lines below it. A literal scalar
keeps its line breaks, a folded one joins lines; the header may fix the
indentation and tells what becomes of the breaks at the end.

- `Chomping`, `BlockHeader`: the header.
- `skipIndent`: the breaks and the indentation before a line.
- `readBlock`: reads a block scalar.
-/

namespace TmuxLayout.Yaml

/-- What becomes of the line breaks at the end of a block scalar. -/
inductive Chomping where
  | strip
  | clip
  | keep
deriving Repr, DecidableEq

/-- The header of a block scalar: chomping, and the indentation if it is fixed. -/
structure BlockHeader where
  chomping : Chomping
  indent : Option Nat
deriving Repr, DecidableEq

/-- The chomping that a character stands for. -/
def chomping? : Char → Option Chomping
  | '+' => some .keep
  | '-' => some .strip
  | _ => none

/-- Reads an indentation indicator, if there is one. -/
def readIndentIndicator (cursor : Cursor) : Except Error (Option Nat × Cursor) :=
  match cursor.rest with
  | c :: _ =>
    if c = '0' then .error (cursor.fault .zeroIndentation)
    else if c.isDigit then .ok (some (c.toNat - '0'.toNat), cursor.next)
    else .ok (none, cursor)
  | [] => .ok (none, cursor)

/-- Reads a chomping indicator, if there is one. -/
def readChomping (cursor : Cursor) : Option Chomping × Cursor :=
  match cursor.rest.head?.bind chomping? with
  | some chomping => (some chomping, cursor.next)
  | none => (none, cursor)

/-- Reads the two indicators of a header, in either order. -/
def readBlockHeader (cursor : Cursor) : Except Error (BlockHeader × Cursor) := do
  match readChomping cursor with
  | (some chomping, cursor) =>
    let (indent, cursor) ← readIndentIndicator cursor
    return (⟨chomping, indent⟩, cursor)
  | (none, cursor) =>
    match ← readIndentIndicator cursor with
    | (some indent, cursor) =>
      let (chomping, cursor) := readChomping cursor
      return (⟨chomping.getD .clip, some indent⟩, cursor)
    | (none, cursor) => return (⟨.clip, none⟩, cursor)

/-- What stands before a line: breaks (last one first), the largest column that
was reached, and the cursor. -/
structure Indentation where
  breaks : List Char
  deepest : Nat
  cursor : Cursor

/-- Moves over empty lines and indentation up to column `indent`, or over all
blanks when it is not known. -/
def skipIndent (indent : Option Nat) (breaks : List Char) (deepest : Nat) :
    List Char → Place → Except Error Indentation
  | [], place => .ok ⟨breaks, max deepest place.column, ⟨[], place⟩⟩
  | c :: rest, place =>
    let isOpen := match indent with
      | some column => decide (place.column < column)
      | none => true
    if isOpen && c = ' ' then skipIndent indent breaks deepest rest (place.after c)
    else if isOpen && c = '\t' then .error ⟨.tabAsIndentation, place⟩
    else
      let deepest := max deepest place.column
      if isBreak c then skipIndent indent (c :: breaks) deepest rest (place.after c)
      else .ok ⟨breaks, deepest, ⟨c :: rest, place⟩⟩

/-- The text of a block scalar while it is read, all of it last character
first. -/
structure BlockText where
  done : List Char
  /-- The break of the line before. -/
  lineBreak : List Char
  /-- The breaks of empty lines behind it. -/
  breaks : List Char
  /-- Whether the line before began with a blank. -/
  wasBlank : Bool

/-- The text with the breaks before a further line. Folding replaces a single
line feed between two lines that do not begin with a blank. -/
def BlockText.joined (folded isBlank : Bool) (text : BlockText) : List Char :=
  if folded && text.lineBreak = ['\n'] && !text.wasBlank && !isBlank then
    if text.breaks.isEmpty then ' ' :: text.done else text.breaks ++ text.done
  else text.breaks ++ text.lineBreak ++ text.done

/-- Reads the lines of a block scalar at column `indent`. Every line takes a
character, so the steps do not run out. -/
def readLines (folded : Bool) (indent : Nat) :
    (steps : Nat) → BlockText → Cursor → Except Error (BlockText × Cursor)
  | 0, text, cursor => .ok (text, cursor)
  | steps + 1, text, cursor =>
    match cursor.rest with
    | [] => .ok (text, cursor)
    | c :: _ =>
      if cursor.column ≠ indent then .ok (text, cursor)
      else do
        let done := text.joined folded (isBlank c)
        let (line, cursor) := cursor.span (!isBreak ·)
        let lineBreak := cursor.rest.take 1
        let cursor := cursor.next
        let below ← skipIndent (some indent) [] 0 cursor.rest cursor.place
        readLines folded indent steps
          ⟨line.reverse ++ done, lineBreak, below.breaks, isBlank c⟩ below.cursor

/-- Reads a block scalar behind its indicator; `parent` is the column of the
block around it, if there is one. -/
def readBlock (folded : Bool) (parent : Option Nat) (cursor : Cursor) :
    Except Error (String × Cursor) := do
  let (header, cursor) ← readBlockHeader cursor
  let cursor ← cursor.endLine .trailingText
  let fixed := header.indent.map (parent.getD 0 + ·)
  let top ← skipIndent fixed [] 0 cursor.rest cursor.place
  let least := match parent with
    | some column => column + 1
    | none => 1
  let indent := fixed.getD (max top.deepest least)
  let (text, cursor) ← readLines folded indent (top.cursor.rest.length + 1)
    ⟨[], [], top.breaks, false⟩ top.cursor
  let done := match header.chomping with
    | .strip => text.done
    | .clip => text.lineBreak ++ text.done
    | .keep => text.breaks ++ text.lineBreak ++ text.done
  return (String.ofList done.reverse, cursor)

end TmuxLayout.Yaml
