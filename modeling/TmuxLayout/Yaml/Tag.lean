import TmuxLayout.Yaml.Cursor
import TmuxLayout.Yaml.Token
import TmuxLayout.Number.Decimal
import TmuxLayout.Text.Utf8

/-!
# Names, tags and directives

- `readName`: the name of an anchor or alias.
- `readUri`: the octets of a tag's suffix, its escapes undone.
- `readTag`: a tag as handle and suffix.
- `readDirective`: a directive for the version or for a tag handle.
-/

namespace TmuxLayout.Yaml

/-! ## Anchors and aliases -/

/-- Whether a text may follow the name of an anchor. -/
def endsName : List Char → Bool
  | c :: rest => startsBlank (c :: rest) || "?:,]\x7d%@`".contains c
  | [] => true

/-- Reads the name of an anchor or alias behind its indicator. -/
def readName (cursor : Cursor) : Except Error (String × Cursor) :=
  let (name, rest) := cursor.span isWordChar
  if name.isEmpty || !endsName rest.rest then .error (cursor.fault .malformedAnchor)
  else .ok (String.ofList name, rest)

/-! ## Tags -/

/-- Whether a character may stand in a tag; a tag between angle brackets may
hold commas and square brackets too. -/
def isUriChar (verbatim : Bool) (c : Char) : Bool :=
  isWordChar c || ";/?:@&=+$.%!~*'()".contains c || (verbatim && ",[]".contains c)

/-- The octet that a percent sign and two hexadecimal digits stand for. -/
def escapedOctet? : List Char → Option (UInt8 × List Char)
  | '%' :: a :: b :: rest => (digitsValue? 16 [a, b]).map fun n => (n.toUInt8, rest)
  | _ => none

/-- The number of octets that a character with this lead octet has. -/
def octetCount? (lead : UInt8) : Option Nat :=
  if lead < 0x80 then some 1
  else if 0xC0 ≤ lead ∧ lead < 0xE0 then some 2
  else if 0xE0 ≤ lead ∧ lead < 0xF0 then some 3
  else if 0xF0 ≤ lead ∧ lead < 0xF8 then some 4
  else none

/-- Undoes escapes that continue a character: `count` octets, each of them a
continuation. -/
def readContinuation : (count : Nat) → List Char → Option (Octets × List Char)
  | 0, rest => some ([], rest)
  | count + 1, text => do
    let (octet, rest) ← escapedOctet? text
    if octet &&& 0xC0 ≠ 0x80 then none
    else
      let (octets, rest) ← readContinuation count rest
      some (octet :: octets, rest)

/-- Undoes the escapes in the characters of a tag. The steps bound the number of
characters. -/
def unescape : (steps : Nat) → List Char → Option Octets
  | 0, _ => some []
  | _ + 1, [] => some []
  | steps + 1, '%' :: rest => do
    let (lead, rest) ← escapedOctet? ('%' :: rest)
    let count ← octetCount? lead
    let (octets, rest) ← readContinuation (count - 1) rest
    let others ← unescape steps rest
    some (lead :: octets ++ others)
  | steps + 1, c :: rest => do
    let others ← unescape steps rest
    some (c.toNat.toUInt8 :: others)

/-- Reads the characters of a tag behind the text `head`. An escaped zero octet
ends the tag. -/
def readUri (verbatim : Bool) (head : List Char) (cursor : Cursor) :
    Except Error (Octets × Cursor) :=
  let (text, rest) := cursor.span (isUriChar verbatim)
  match unescape text.length text with
  | none => .error (cursor.fault .malformedTag)
  | some octets =>
    if head.isEmpty && text.isEmpty then .error (cursor.fault .malformedTag)
    else
      let lead := (head.drop 1).map fun c => c.toNat.toUInt8
      .ok ((lead ++ octets).takeWhile (· ≠ 0), rest)

/-- Reads an exclamation mark, word characters, and a second mark if it is
there. -/
def readHandle (cursor : Cursor) : List Char × Cursor :=
  let (word, rest) := cursor.next.span isWordChar
  if rest.startsWith '!' then ('!' :: word ++ ['!'], rest.next) else ('!' :: word, rest)

/-- Whether a text is a whole handle, with a mark at both ends. -/
def isHandle (text : List Char) : Bool :=
  text.length > 1 && text.getLast? = some '!'

/-- Reads a tag at its exclamation mark: between angle brackets, with a handle,
or local. A lone mark is a tag of its own. -/
def readTag (inFlow : Bool) (cursor : Cursor) : Except Error (TokenKind × Cursor) := do
  let (handle, suffix, rest) ← (do
    if cursor.next.startsWith '<' then
      let (suffix, rest) ← readUri true [] (cursor.drop 2)
      if rest.startsWith '>' then return ("", suffix, rest.next)
      else throw (rest.fault .malformedTag)
    else
      let (handle, rest) := readHandle cursor
      if isHandle handle then
        let (suffix, rest) ← readUri false [] rest
        return (String.ofList handle, suffix, rest)
      else
        let (suffix, rest) ← readUri false handle rest
        if suffix.isEmpty then return ("", [0x21], rest)
        else return ("!", suffix, rest) : Except Error (String × Octets × Cursor))
  if startsBlank rest.rest || (inFlow && rest.startsWith ',') then
    return (.tag handle suffix, rest)
  else throw (rest.fault .malformedTag)

/-! ## Directives -/

/-- Reads a number of at most nine digits. -/
def readVersionNumber (cursor : Cursor) : Except Error (Nat × Cursor) :=
  let (digits, rest) := cursor.span Char.isDigit
  if digits.isEmpty || digits.length > 9 then .error (cursor.fault .malformedDirective)
  else .ok (digitsValue digits, rest)

/-- Reads a directive at its percent sign. -/
def readDirective (cursor : Cursor) : Except Error (TokenKind × Cursor) := do
  let (name, rest) := cursor.next.span isWordChar
  if !startsBlank rest.rest then throw (rest.fault .malformedDirective)
  let start := rest.skipWhile isBlank
  match String.ofList name with
  | "YAML" =>
    let (major, rest) ← readVersionNumber start
    if !rest.startsWith '.' then throw (rest.fault .malformedDirective)
    let (minor, rest) ← readVersionNumber rest.next
    let rest ← rest.endLine .malformedDirective
    return (.versionDirective major minor, rest)
  | "TAG" =>
    if !start.startsWith '!' then throw (start.fault .malformedDirective)
    let (handle, rest) := readHandle start
    if handle.length > 1 ∧ ¬ isHandle handle then throw (rest.fault .malformedDirective)
    if !(rest.rest.head?.any isBlank) then throw (rest.fault .malformedDirective)
    let (lead, rest) ← readUri true [] (rest.skipWhile isBlank)
    if !startsBlank rest.rest then throw (rest.fault .malformedDirective)
    let rest ← rest.endLine .malformedDirective
    return (.tagDirective (String.ofList handle) lead, rest)
  | _ => throw (cursor.fault .malformedDirective)

end TmuxLayout.Yaml
