import TmuxLayout.Yaml.Error

/-!
# Cursors in a text

A cursor is what is left of a text, with the place where it begins. All line
breaks of a text become one character before it is read, so a cursor moves one
character at a time.

- `unifyBreaks`: one line feed for each line break.
- `isAllowed`, `isBreak`, `isBlank`, `isWordChar`: classes of characters.
- `Cursor.next`, `Cursor.span`, `Cursor.skipWhile`: movement.
- `Cursor.atDocumentMark`: whether a line of three dashes or dots begins.
-/

namespace TmuxLayout.Yaml

/-! ## Characters -/

/-- Whether a character may stand in a text at all. -/
def isAllowed (c : Char) : Bool :=
  let n := c.toNat
  n = 0x09 || n = 0x0A || n = 0x0D || (0x20 ≤ n && n ≤ 0x7E) || n = 0x85 ||
    (0xA0 ≤ n && n ≤ 0xFFFD) || 0x10000 ≤ n

/-- Writes each line break as one line feed. The separators of lines and of
paragraphs are breaks that keep their own character. -/
def unifyBreaks : List Char → List Char
  | '\r' :: '\n' :: rest => '\n' :: unifyBreaks rest
  | '\r' :: rest => '\n' :: unifyBreaks rest
  | '\u0085' :: rest => '\n' :: unifyBreaks rest
  | c :: rest => c :: unifyBreaks rest
  | [] => []

/-- Whether a character ends a line. -/
def isBreak (c : Char) : Bool :=
  c = '\n' || c = '\u2028' || c = '\u2029'

/-- Whether a character separates words within a line. -/
def isBlank (c : Char) : Bool :=
  c = ' ' || c = '\t'

/-- Whether a character may stand in an anchor or a tag handle. -/
def isWordChar (c : Char) : Bool :=
  c.isAlphanum || c = '_' || c = '-'

/-- The mark that may begin a text. -/
def byteOrderMark : Char := '\uFEFF'

/-- Whether a text is at an end, a line break or a blank. -/
def startsBlank : List Char → Bool
  | [] => true
  | c :: _ => isBlank c || isBreak c

/-! ## Movement -/

/-- The place behind a character. -/
def Place.after (place : Place) (c : Char) : Place :=
  if isBreak c then ⟨place.line + 1, 0, place.index + c.utf8Size⟩
  else ⟨place.line, place.column + 1, place.index + c.utf8Size⟩

/-- What is left of a text, and the place where it begins. -/
structure Cursor where
  rest : List Char
  place : Place
deriving Inhabited

namespace Cursor

/-- The cursor at the beginning of a text. -/
def ofText (text : List Char) : Cursor :=
  ⟨text, ⟨0, 0, 0⟩⟩

/-- The cursor behind the next character. -/
def next (cursor : Cursor) : Cursor :=
  match cursor.rest with
  | [] => cursor
  | c :: rest => ⟨rest, cursor.place.after c⟩

/-- The cursor behind the next `count` characters. -/
def drop : (count : Nat) → Cursor → Cursor
  | 0, cursor => cursor
  | count + 1, cursor => drop count cursor.next

/-- The column of the cursor. -/
def column (cursor : Cursor) : Nat :=
  cursor.place.column

/-- Whether the next character is `c`. -/
def startsWith (cursor : Cursor) (c : Char) : Bool :=
  cursor.rest.head? = some c

/-- A fault at the cursor. -/
def fault (cursor : Cursor) (cause : Cause) : Error :=
  ⟨cause, cursor.place⟩

/-- Splits off the leading characters with a property; `done` holds the ones
before, last one first. -/
def spanFrom (p : Char → Bool) (done : List Char) :
    List Char → Place → List Char × Cursor
  | [], place => (done.reverse, ⟨[], place⟩)
  | c :: rest, place =>
    if p c then spanFrom p (c :: done) rest (place.after c)
    else (done.reverse, ⟨c :: rest, place⟩)

/-- The leading characters with a property, and the cursor behind them. -/
def span (p : Char → Bool) (cursor : Cursor) : List Char × Cursor :=
  spanFrom p [] cursor.rest cursor.place

/-- The cursor behind the leading characters with a property. -/
def skipWhile (p : Char → Bool) (cursor : Cursor) : Cursor :=
  (cursor.span p).2

/-- Whether a text begins with three dashes or three dots and then a blank. -/
def isDocumentMark : List Char → Bool
  | '-' :: '-' :: '-' :: rest => startsBlank rest
  | '.' :: '.' :: '.' :: rest => startsBlank rest
  | _ => false

/-- Whether the cursor is at a document mark that begins a line. -/
def atDocumentMark (cursor : Cursor) : Bool :=
  cursor.column = 0 && isDocumentMark cursor.rest

/-- Moves behind the rest of a line that may hold blanks and a comment only, and
behind its break. -/
def endLine (cursor : Cursor) (cause : Cause) : Except Error Cursor :=
  let cursor := cursor.skipWhile isBlank
  let cursor := if cursor.startsWith '#' then cursor.skipWhile (!isBreak ·) else cursor
  match cursor.rest with
  | [] => .ok cursor
  | c :: _ => if isBreak c then .ok cursor.next else .error (cursor.fault cause)

end Cursor

end TmuxLayout.Yaml
