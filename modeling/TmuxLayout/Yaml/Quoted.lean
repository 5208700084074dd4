import TmuxLayout.Yaml.Folding
import TmuxLayout.Number.Decimal

/-!
# Quoted scalars

- `escaped?`: the character that a one-letter escape stands for.
- `readSingleQuoted`: a quote is written twice, nothing else is special.
- `readDoubleQuoted`: with escapes; an escaped line break stands for nothing.
-/

namespace TmuxLayout.Yaml

/-- The character that a backslash and a letter stand for. -/
def escaped? : Char → Option Char
  | '0' => some '\x00'
  | 'a' => some '\x07'
  | 'b' => some '\x08'
  | 't' | '\t' => some '\t'
  | 'n' => some '\n'
  | 'v' => some '\x0b'
  | 'f' => some '\x0c'
  | 'r' => some '\r'
  | 'e' => some '\x1b'
  | ' ' => some ' '
  | '"' => some '"'
  | '/' => some '/'
  | '\\' => some '\\'
  | 'N' => some '\u0085'
  | '_' => some '\u00a0'
  | 'L' => some '\u2028'
  | 'P' => some '\u2029'
  | _ => none

/-- The character with the code that hexadecimal digits write. -/
def hexChar? (digits : List Char) : Option Char :=
  (digitsValue? 16 digits).bind fun code =>
    if h : code.isValidChar then some (Char.ofNatAux code h) else none

/-- Reads a single-quoted scalar behind its opening quote; `done` holds the text
before, last character first. -/
def readSingleQuoted (done : List Char) (gap : Gap) :
    List Char → Place → Except Error (String × Cursor)
  | [], place => .error ⟨.unterminatedScalar, place⟩
  | c :: rest, place =>
    if isBlank c || isBreak c then readSingleQuoted done (gap.push c) rest (place.after c)
    else if (Cursor.mk (c :: rest) place).atDocumentMark then
      .error ⟨.documentMarkInScalar, place⟩
    else
      let done := gap.text ++ done
      match c, rest with
      | '\'', '\'' :: rest =>
        readSingleQuoted ('\'' :: done) .none rest ((place.after '\'').after '\'')
      | '\'', rest => .ok (String.ofList done.reverse, ⟨rest, place.after c⟩)
      | c, rest => readSingleQuoted (c :: done) .none rest (place.after c)

/-- Reads a double-quoted scalar behind its opening quote; `done` holds the text
before, last character first. -/
def readDoubleQuoted (done : List Char) (gap : Gap) :
    List Char → Place → Except Error (String × Cursor)
  | [], place => .error ⟨.unterminatedScalar, place⟩
  | c :: rest, place =>
    if isBlank c || isBreak c then readDoubleQuoted done (gap.push c) rest (place.after c)
    else if (Cursor.mk (c :: rest) place).atDocumentMark then
      .error ⟨.documentMarkInScalar, place⟩
    else
      let done := gap.text ++ done
      match c, rest with
      | '"', rest => .ok (String.ofList done.reverse, ⟨rest, place.after c⟩)
      | '\\', 'x' :: a :: b :: rest =>
        match hexChar? [a, b] with
        | some c => readDoubleQuoted (c :: done) .none rest ⟨place.line, place.column + 4, place.index + 4⟩
        | none => .error ⟨.malformedEscape, place⟩
      | '\\', 'u' :: a :: b :: c :: d :: rest =>
        match hexChar? [a, b, c, d] with
        | some c => readDoubleQuoted (c :: done) .none rest ⟨place.line, place.column + 6, place.index + 6⟩
        | none => .error ⟨.malformedEscape, place⟩
      | '\\', 'U' :: a :: b :: c :: d :: e :: f :: g :: h :: rest =>
        match hexChar? [a, b, c, d, e, f, g, h] with
        | some c => readDoubleQuoted (c :: done) .none rest ⟨place.line, place.column + 10, place.index + 10⟩
        | none => .error ⟨.malformedEscape, place⟩
      | '\\', e :: rest =>
        if isBreak e then
          readDoubleQuoted done (.breaks none []) rest ((place.after '\\').after e)
        else match escaped? e with
          | some c => readDoubleQuoted (c :: done) .none rest ((place.after '\\').after e)
          | none => .error ⟨.unknownEscape, place⟩
      | '\\', [] => .error ⟨.unknownEscape, place⟩
      | c, rest => readDoubleQuoted (c :: done) .none rest (place.after c)

end TmuxLayout.Yaml
