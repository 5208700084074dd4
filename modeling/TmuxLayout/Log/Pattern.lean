import TmuxLayout.Log.Pattern.Reading

/-!
# Patterns for the values of fields

A directive of a filter may ask for the value of a field. What stands there is a
number, a truth value, or else a regular expression. No event is told because of
its value, so all that counts is whether the text can be used.

- `isPattern`: whether a text is a regular expression that can be looked for.
- `isFieldPattern`: whether a text asks for a value.
-/

namespace TmuxLayout

/-- Whether a text is a regular expression that can be looked for. -/
def isPattern (text : List Char) : Bool :=
  (Pattern.Expression.read? text).any Pattern.Expression.isUsable

/-- Whether a text asks for a value. A number may begin with a plus, with which no
expression begins. -/
def isFieldPattern (text : List Char) : Bool :=
  isPattern text ||
    match text with
    | '+' :: number =>
      ["inf", "infinity", "nan"].contains (String.ofList (number.map Char.toLower)) ||
        (number.head? ≠ some '-' && number.head? ≠ some '+' && (Decimal.ofChars? number).isSome)
    | _ => false

end TmuxLayout
