import TmuxLayout.Text.Hidden

/-!
# Texts as literals

A text that is shown to somebody who debugs stands in double quotes. Quotes,
backslashes and whatever could not be seen are written as escapes, so different
texts have different literals.

- `escape c`: a character as it stands in a literal.
- `literal`: a text in quotes.
- `optionalLiteral`: a text that may be absent.
-/

namespace TmuxLayout.Text

/-- A character as it stands in a literal. -/
def escape (c : Char) : List Char :=
  match c with
  | '\x00' => ['\\', '0']
  | '\t' => ['\\', 't']
  | '\n' => ['\\', 'n']
  | '\r' => ['\\', 'r']
  | '"' => ['\\', '"']
  | '\\' => ['\\', '\\']
  | c => if isHidden c then "\\u\x7b".toList ++ Nat.toDigits 16 c.toNat ++ ['\x7d'] else [c]

end TmuxLayout.Text

namespace TmuxLayout

/-- A text in quotes. -/
def literal (text : String) : String :=
  "\"" ++ String.ofList (text.toList.flatMap Text.escape) ++ "\""

/-- A value that may be absent. -/
def optionalLiteral : Option String → String
  | some value => "Some(" ++ value ++ ")"
  | none => "None"

end TmuxLayout
