/-!
# Faults of JSON texts

- `Json.Error`: why a text is not a JSON value.
- `Json.Error.message`: the fault in words.
-/

namespace TmuxLayout.Json

/-- Why a text is not a JSON value. -/
inductive Error where
  | unexpectedEnd
  | unexpected (character : Char)
  | trailing (character : Char)
  | invalidNumber
  | numberOutOfRange
  | controlCharacter
  | invalidEscape
  | loneSurrogate
  | keyNotString
  | repeatedKey (key : String)
  | tooDeep
deriving Repr, DecidableEq

namespace Error

/-- The fault in words. -/
def message : Error → String
  | unexpectedEnd => "the text ends before the value does"
  | unexpected c => "unexpected character " ++ c.quote
  | trailing c => "unexpected character " ++ c.quote ++ " behind the value"
  | invalidNumber => "invalid number"
  | numberOutOfRange => "number out of range"
  | controlCharacter => "control character in a string"
  | invalidEscape => "invalid escape"
  | loneSurrogate => "half of a surrogate pair"
  | keyNotString => "a key must be a string"
  | repeatedKey key => "repeated key " ++ key.quote
  | tooDeep => "nested too deeply"

end Error

end TmuxLayout.Json
