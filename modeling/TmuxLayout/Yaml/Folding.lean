import TmuxLayout.Yaml.Cursor

/-!
# Folding of lines

Inside a quoted or plain scalar a single line break stands for a blank, and of
several the first is dropped. Blanks beside a break do not count.

- `Gap`: the blanks and breaks read since the last other character.
- `Gap.push`: one more of them.
- `Gap.text`: what they stand for when another character follows.
-/

namespace TmuxLayout.Yaml

/-- The blanks and breaks since the last other character of a scalar. -/
inductive Gap where
  /-- Blanks within a line, last one first. -/
  | blanks (reversed : List Char)
  /-- Breaks: the first, unless it was escaped, and the others, last one first. -/
  | breaks (first : Option Char) (reversed : List Char)
deriving Repr, DecidableEq

namespace Gap

/-- No gap. -/
def none : Gap := blanks []

/-- Whether a gap holds a line break. -/
def hasBreak : Gap → Bool
  | blanks _ => false
  | breaks _ _ => true

/-- Whether nothing was read since the last other character. -/
def isNone : Gap → Bool
  | blanks [] => true
  | _ => false

/-- The gap with one more blank or break. -/
def push (gap : Gap) (c : Char) : Gap :=
  match gap, isBreak c with
  | blanks reversed, false => blanks (c :: reversed)
  | blanks _, true => breaks (some c) []
  | breaks first reversed, false => breaks first reversed
  | breaks first reversed, true => breaks first (c :: reversed)

/-- What a gap stands for, last character first. -/
def text : Gap → List Char
  | blanks reversed => reversed
  | breaks (some '\n') [] => [' ']
  | breaks (some '\n') reversed => reversed
  | breaks (some first) reversed => reversed ++ [first]
  | breaks Option.none reversed => reversed

end Gap

end TmuxLayout.Yaml
