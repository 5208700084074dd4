/-!
# Writing JSON

Values are written from the inside out: a member of a list or an object is the
text of its value, and a list or an object puts such texts between brackets.

- `Json.string`: a text as a JSON string.
- `Json.member`: a name with the text of a value.
- `Json.line`: members between brackets on one line.
- `Json.block`: members between brackets, each on lines of its own.
-/

namespace TmuxLayout.Json

/-- Two hexadecimal digits. -/
def hexPair (n : Nat) : List Char :=
  [Nat.digitChar (n / 16), Nat.digitChar (n % 16)]

/-- A character as it stands in a JSON string: quotes, backslashes and control
characters of ASCII need escapes. -/
def escape (c : Char) : List Char :=
  match c with
  | '"' => ['\\', '"']
  | '\\' => ['\\', '\\']
  | '\n' => ['\\', 'n']
  | '\r' => ['\\', 'r']
  | '\t' => ['\\', 't']
  | '\x08' => ['\\', 'b']
  | '\x0c' => ['\\', 'f']
  | c => if c.toNat < 0x20 then "\\u00".toList ++ hexPair c.toNat else [c]

/-- A text as a JSON string. -/
def string (text : String) : String :=
  "\"" ++ String.ofList (text.toList.flatMap escape) ++ "\""

/-- A text that may be absent as a JSON value. -/
def optionalString (text : Option String) : String :=
  text.elim "null" string

/-- The brackets of lists and those of objects. -/
inductive Brackets where
  | list
  | object
deriving Repr, DecidableEq

namespace Brackets

/-- The bracket before the members. -/
def opening : Brackets → String
  | list => "["
  | object => "\x7b"

/-- The bracket behind the members. -/
def closing : Brackets → String
  | list => "]"
  | object => "\x7d"

end Brackets

/-- Members between brackets on one line. -/
def line (brackets : Brackets) (members : List String) : String :=
  brackets.opening ++ ",".intercalate members ++ brackets.closing

/-- White space at the begin of a line at some depth. -/
def indentation (depth : Nat) : String :=
  String.ofList (List.replicate (2 * depth) ' ')

/-- Members between brackets, each on lines of its own; the brackets stand at
some depth. -/
def block (brackets : Brackets) (depth : Nat) (members : List String) : String :=
  if members.isEmpty then brackets.opening ++ brackets.closing
  else
    brackets.opening ++ "\n" ++
      ",\n".intercalate (members.map (indentation (depth + 1) ++ ·)) ++ "\n" ++
      indentation depth ++ brackets.closing

/-- A name with a value, with room between them if they stand in a block. -/
def member (name value : String) : String :=
  string name ++ ": " ++ value

/-- A name with a value on a line with others. -/
def tightMember (name value : String) : String :=
  string name ++ ":" ++ value

end TmuxLayout.Json
