import TmuxLayout.Json.Number

/-!
# Reading JSON

Reads one value and nothing behind it. Repeated keys, halves of surrogate pairs
and more than 127 levels of nesting are refused.

- `readString`: the text of a string behind its opening quote.
- `readValue`, `readItems`, `readEntries`: values, and what stands between
  brackets; a step count that exceeds the length of the text bounds them.
- `Document.ofJson`: the value of a whole text.
-/

namespace TmuxLayout.Json

/-- The levels of nesting that are allowed. -/
def maxDepth : Nat := 127

/-- Whether a character may stand between tokens. -/
def isBlank (c : Char) : Bool :=
  c = ' ' || c = '\t' || c = '\n' || c = '\r'

/-- The text behind blanks. -/
def skipBlanks (text : List Char) : List Char :=
  text.dropWhile isBlank

/-- The number that four hexadecimal digits write. -/
def hex4? (a b c d : Char) : Option Nat :=
  digitsValue? 16 [a, b, c, d]

/-- Reads the text of a string behind its opening quote; `done` holds what was
read before, last character first. -/
def readString (done : List Char) : List Char → Except Error (String × List Char)
  | [] => .error .unexpectedEnd
  | '"' :: rest => .ok (String.ofList done.reverse, rest)
  | '\\' :: '"' :: rest => readString ('"' :: done) rest
  | '\\' :: '\\' :: rest => readString ('\\' :: done) rest
  | '\\' :: '/' :: rest => readString ('/' :: done) rest
  | '\\' :: 'b' :: rest => readString ('\x08' :: done) rest
  | '\\' :: 'f' :: rest => readString ('\x0c' :: done) rest
  | '\\' :: 'n' :: rest => readString ('\n' :: done) rest
  | '\\' :: 'r' :: rest => readString ('\r' :: done) rest
  | '\\' :: 't' :: rest => readString ('\t' :: done) rest
  | '\\' :: 'u' :: a :: b :: c :: d :: rest =>
    match hex4? a b c d with
    | none => .error .invalidEscape
    | some unit =>
      if 0xDC00 ≤ unit ∧ unit ≤ 0xDFFF then .error .loneSurrogate
      else if unit < 0xD800 ∨ unit > 0xDBFF then readString (Char.ofNat unit :: done) rest
      else match rest with
        | '\\' :: 'u' :: a :: b :: c :: d :: rest =>
          match hex4? a b c d with
          | none => .error .invalidEscape
          | some low =>
            if low < 0xDC00 ∨ low > 0xDFFF then .error .loneSurrogate
            else
              let code := 0x10000 + (unit - 0xD800) * 0x400 + (low - 0xDC00)
              readString (Char.ofNat code :: done) rest
        | _ => .error .loneSurrogate
  | '\\' :: _ => .error .invalidEscape
  | c :: rest =>
    if c.toNat < 0x20 then .error .controlCharacter else readString (c :: done) rest

/-- Reads the rest of a fixed word. -/
def readWord (word : List Char) (value : Document) :
    List Char → Except Error (Document × List Char) :=
  fun text =>
    if word.isPrefixOf text then .ok (value, text.drop word.length)
    else .error (if text.length < word.length then .unexpectedEnd else .unexpected (text.headD ' '))

mutual

/-- Reads a value at a depth. -/
def readValue (depth : Nat) : (steps : Nat) → List Char → Except Error (Document × List Char)
  | 0, _ => .error .unexpectedEnd
  | steps + 1, text =>
    match skipBlanks text with
    | [] => .error .unexpectedEnd
    | 'n' :: rest => readWord "ull".toList .null rest
    | 't' :: rest => readWord "rue".toList (.bool true) rest
    | 'f' :: rest => readWord "alse".toList (.bool false) rest
    | '-' :: rest => readNumber true rest
    | '"' :: rest => do
      let (text, rest) ← readString [] rest
      return (.string text, rest)
    | '[' :: rest =>
      if depth ≥ maxDepth then .error .tooDeep
      else match skipBlanks rest with
        | ']' :: rest => .ok (.sequence [], rest)
        | rest => readItems (depth + 1) [] steps rest
    | '\x7b' :: rest =>
      if depth ≥ maxDepth then .error .tooDeep
      else match skipBlanks rest with
        | '\x7d' :: rest => .ok (.mapping [], rest)
        | rest => readEntries (depth + 1) [] steps rest
    | c :: rest => if c.isDigit then readNumber false (c :: rest) else .error (.unexpected c)

/-- Reads the items of an array up to its closing bracket; `done` holds the items
before, last one first. -/
def readItems (depth : Nat) (done : List Document) :
    (steps : Nat) → List Char → Except Error (Document × List Char)
  | 0, _ => .error .unexpectedEnd
  | steps + 1, text => do
    let (item, rest) ← readValue depth steps text
    match skipBlanks rest with
    | ']' :: rest => return (.sequence (item :: done).reverse, rest)
    | ',' :: rest => readItems depth (item :: done) steps rest
    | [] => throw .unexpectedEnd
    | c :: _ => throw (.unexpected c)

/-- Reads the entries of an object up to its closing brace; `done` holds the
entries before, last one first. -/
def readEntries (depth : Nat) (done : List (Document × Document)) :
    (steps : Nat) → List Char → Except Error (Document × List Char)
  | 0, _ => .error .unexpectedEnd
  | steps + 1, text =>
    match skipBlanks text with
    | '"' :: rest => do
      let (key, rest) ← readString [] rest
      if Document.hasKey done (.string key) then throw (.repeatedKey key)
      match skipBlanks rest with
      | ':' :: rest =>
        let (value, rest) ← readValue depth steps rest
        let done := (.string key, value) :: done
        match skipBlanks rest with
        | '\x7d' :: rest => return (.mapping done.reverse, rest)
        | ',' :: rest => readEntries depth done steps rest
        | [] => throw .unexpectedEnd
        | c :: _ => throw (.unexpected c)
      | [] => throw .unexpectedEnd
      | c :: _ => throw (.unexpected c)
    | [] => .error .unexpectedEnd
    | _ => .error .keyNotString

end

/-- Reads one value with nothing but blanks behind it. Every two steps take at
least one character, so the steps do not run out. -/
def read (text : List Char) : Except Error Document := do
  let (value, rest) ← readValue 0 (2 * text.length + 2) text
  match skipBlanks rest with
  | [] => return value
  | c :: _ => throw (.trailing c)

end TmuxLayout.Json

/-- The value of a JSON text. -/
def TmuxLayout.Document.ofJson (text : String) : Except TmuxLayout.Json.Error TmuxLayout.Document :=
  TmuxLayout.Json.read text.toList
