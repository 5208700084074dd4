import TmuxLayout.Shell.Pattern

/-!
# Splitting words into fields

What parameters and commands put into a word is split at the characters of
`$IFS`. White space among them separates fields in any number; another character
ends a field each time.

- `Fragment`: a part of a word while it is put together.
- `splitFields`: the fields of a word.
- `plainGlyphs`: the characters of a word that is not split.
-/

namespace TmuxLayout.Shell

/-- A part of a word while it is put together. -/
inductive Fragment where
  | char (c : Char) (quoted splits : Bool)
  /-- There is a field here, even if it is empty. -/
  | presence
  /-- One field ends here and another begins. -/
  | boundary
deriving Repr, DecidableEq

/-- A text as it stands in a script. -/
def literalFragments (quoted splits : Bool) (text : List Char) : List Fragment :=
  let chars := text.map fun c => Fragment.char c quoted splits
  if quoted then .presence :: chars else chars

/-- A text that a parameter or a command puts in. -/
def valueFragments (quoted : Bool) (text : List Char) : List Fragment :=
  literalFragments quoted (!quoted) text

/-- The fields so far. -/
structure Splitting where
  /-- The fields that have ended, last one first. -/
  fields : List (List Glyph)
  /-- The field that has begun, last character first. -/
  current : Option (List Glyph)
  /-- Whether white space has just ended a field, so that another separator
  behind it ends none. -/
  afterSpace : Bool

namespace Splitting

/-- Ends the field that has begun. -/
def close (splitting : Splitting) (afterSpace : Bool) : Splitting :=
  match splitting.current with
  | some field => ⟨field.reverse :: splitting.fields, none, afterSpace⟩
  | none => splitting

/-- Takes a fragment in. -/
def add (separators : List Char) (splitting : Splitting) : Fragment → Splitting
  | .presence => { splitting with current := some (splitting.current.getD []), afterSpace := false }
  | .boundary => splitting.close false
  | .char c quoted splits =>
    if splits && separators.contains c then
      if c = ' ' || c = '\t' || c = '\n' then splitting.close true
      else if splitting.current.isSome then splitting.close false
      else if splitting.afterSpace then { splitting with afterSpace := false }
      else { splitting with fields := [] :: splitting.fields }
    else ⟨splitting.fields, some (⟨c, quoted⟩ :: splitting.current.getD []), false⟩

end Splitting

/-- The fields of a word. -/
def splitFields (separators : List Char) (fragments : List Fragment) : List (List Glyph) :=
  ((fragments.foldl (Splitting.add separators) ⟨[], none, false⟩).close false).fields.reverse

/-- The characters of a word that is not split. -/
def plainGlyphs (fragments : List Fragment) : List Glyph :=
  fragments.filterMap fun
    | .char c quoted _ => some ⟨c, quoted⟩
    | .boundary => some ⟨' ', true⟩
    | .presence => none

/-- The text of a word that is not split. -/
def plainChars (fragments : List Fragment) : List Char :=
  (plainGlyphs fragments).map Glyph.char

end TmuxLayout.Shell
