import TmuxLayout.Yaml.Folding

/-!
# Plain scalars

A plain scalar ends before a colon with a blank behind it, before a comment,
before a document mark and before a line that is not indented; between brackets
it also ends before commas and brackets.

- `PlainText`: the text, whether it ended behind a line break, and what is left.
- `readPlain`: reads a plain scalar.
-/

namespace TmuxLayout.Yaml

/-- A plain scalar as it was read. -/
structure PlainText where
  text : String
  /-- Whether a line break was read behind the text. -/
  endsLine : Bool
  cursor : Cursor

/-- Whether a character is an indicator between brackets. -/
def isFlowIndicator (c : Char) : Bool :=
  c = ',' || c = '[' || c = ']' || c = '\x7b' || c = '\x7d'

/-- Whether a plain scalar has to end before a text, as its characters tell. -/
def endsPlain (inFlow : Bool) : List Char → Bool
  | ':' :: rest => startsBlank rest
  | c :: _ => inFlow && isFlowIndicator c
  | [] => true

/-- Whether a text is a colon before an indicator that it must not touch. -/
def isStrayColon : List Char → Bool
  | ':' :: c :: _ => isFlowIndicator c || c = '?'
  | _ => false

/-- Reads a plain scalar whose further lines begin at column `indent` or later;
`done` holds the text before, last character first. -/
def readPlain (inFlow : Bool) (indent : Nat) (done : List Char) (gap : Gap) :
    List Char → Place → Except Error PlainText
  | [], place => .ok ⟨String.ofList done.reverse, gap.hasBreak, ⟨[], place⟩⟩
  | c :: rest, place =>
    if isBlank c || isBreak c then
      if c = '\t' ∧ gap.hasBreak ∧ place.column < indent then .error ⟨.tabAsIndentation, place⟩
      else readPlain inFlow indent done (gap.push c) rest (place.after c)
    else
      let cursor : Cursor := ⟨c :: rest, place⟩
      let outside := gap.hasBreak && !inFlow && place.column < indent
      let comment := c = '#' && !gap.isNone
      if outside || comment || cursor.atDocumentMark then
        .ok ⟨String.ofList done.reverse, gap.hasBreak, cursor⟩
      else if inFlow && isStrayColon (c :: rest) then .error ⟨.colonInPlainScalar, place⟩
      else if endsPlain inFlow (c :: rest) then
        .ok ⟨String.ofList done.reverse, gap.hasBreak, cursor⟩
      else readPlain inFlow indent (c :: (gap.text ++ done)) .none rest (place.after c)

end TmuxLayout.Yaml
