import TmuxLayout.Shell.Pattern

/-!
# Regular expressions

- `RegularExpression`: a regular expression.
- `RegularExpression.run`: all ways to fit an expression at some place.
- `RegularExpression.find?`: the leftmost place where it fits, and the longest text there.
-/

namespace TmuxLayout.Shell.Tool

/-- A regular expression. -/
inductive RegularExpression where
  | nothing
  | single (item : PatternItem)
  /-- The begin of the text, or of a line of it. -/
  | lineStart (inner : Bool)
  /-- The end of the text, or of a line of it. -/
  | lineEnd (inner : Bool)
  | wordStart
  | wordEnd
  | wordEdge (isEdge : Bool)
  /-- No character of a word stands before this place. -/
  | noWordBefore
  /-- No character of a word stands behind this place. -/
  | noWordBehind
  | group (number : Nat) (inner : RegularExpression)
  /-- The text that a group has fitted. -/
  | again (number : Nat)
  /-- Counts with nothing before them that they could be meant for. -/
  | idle (counts : List Char)
  | both (first second : RegularExpression)
  | either (first second : RegularExpression)
  | repeated (inner : RegularExpression) (least : Nat) (most : Option Nat)
deriving Repr

namespace RegularExpression

/-- The same with begins and ends of lines in place of those of the text. -/
def perLine : RegularExpression → RegularExpression
  | lineStart _ => lineStart true
  | lineEnd _ => lineEnd true
  | group number inner => group number inner.perLine
  | both first second => both first.perLine second.perLine
  | either first second => either first.perLine second.perLine
  | repeated inner least most => repeated inner.perLine least most
  | other => other

/-- How many groups there are. -/
def groupCount : RegularExpression → Nat
  | group _ inner => inner.groupCount + 1
  | both first second | either first second => first.groupCount + second.groupCount
  | repeated inner _ _ => inner.groupCount
  | _ => 0

/-- The counts that are meant for nothing, in their order. -/
def idleCounts : RegularExpression → List (List Char)
  | idle counts => [counts]
  | group _ inner | repeated inner _ _ => inner.idleCounts
  | both first second | either first second => first.idleCounts ++ second.idleCounts
  | _ => []

/-- The expression that fits a text and nothing else. -/
def ofText (text : List Char) : RegularExpression :=
  text.foldr (fun c rest => .both (.single (.char c)) rest) .nothing

/-- Whether a character belongs to words. -/
def isWordChar (c : Char) : Bool :=
  c.isAlphanum || c = '_'

/-! ## Fitting -/

/-- A place in a line. -/
structure Spot where
  before : Option Char
  rest : List Char
  /-- What groups have fitted, last one first. -/
  groups : List (Nat × List Char)

/-- A character in lower case, if case is not to count. -/
def folded (ignoresCase : Bool) (c : Char) : Char :=
  if ignoresCase then c.toLower else c

/-- Whether an item fits a character. -/
def itemFits (ignoresCase : Bool) (item : PatternItem) (c : Char) : Bool :=
  item.fits c || (ignoresCase && (item.fits c.toLower || item.fits c.toUpper))

/-- The place behind a text, if it stands here. -/
def Spot.behind? (ignoresCase : Bool) : (text : List Char) → Spot → Option Spot
  | [], spot => some spot
  | c :: text, spot =>
    match spot.rest with
    | d :: rest =>
      if folded ignoresCase c = folded ignoresCase d then
        behind? ignoresCase text { spot with before := some d, rest }
      else none
    | [] => none

/-- Whether the place is between a character of a word and one that is none. -/
def Spot.wordSides (spot : Spot) : Bool × Bool :=
  (spot.before.any isWordChar, spot.rest.head?.any isWordChar)

/-- Repeats a step as often as possible and less often; the steps are bounded. -/
def repeatStep (step : Spot → List Spot) : (count least : Nat) → (most : Option Nat) → Spot →
    List Spot
  | 0, _, _, spot => [spot]
  | count + 1, least, most, spot =>
    let next := if most = some 0 then [] else step spot
    let useful := next.filter fun other => least > 0 || other.rest.length < spot.rest.length
    let more := useful.flatMap (repeatStep step count (least - 1) (most.map (· - 1)))
    if least = 0 then more ++ [spot] else more

/-- All ways to fit an expression at some place, by the places behind it. -/
def run (ignoresCase : Bool) : RegularExpression → Spot → List Spot
  | nothing, spot | idle _, spot => [spot]
  | single item, spot =>
    match spot.rest with
    | c :: rest => if itemFits ignoresCase item c then [{ spot with before := some c, rest }] else []
    | [] => []
  | lineStart inner, spot =>
    if spot.before.isNone || (inner && spot.before = some '\n') then [spot] else []
  | lineEnd inner, spot =>
    if spot.rest.isEmpty || (inner && spot.rest.head? = some '\n') then [spot] else []
  | wordStart, spot => if spot.wordSides = (false, true) then [spot] else []
  | wordEnd, spot => if spot.wordSides = (true, false) then [spot] else []
  | wordEdge isEdge, spot =>
    if (spot.wordSides.1 != spot.wordSides.2) == isEdge then [spot] else []
  | noWordBefore, spot => if spot.wordSides.1 then [] else [spot]
  | noWordBehind, spot => if spot.wordSides.2 then [] else [spot]
  | group number inner, spot =>
    (run ignoresCase inner spot).map fun after =>
      let text := spot.rest.take (spot.rest.length - after.rest.length)
      { after with groups := (number, text) :: after.groups }
  | again number, spot =>
    (((spot.groups.lookup number).bind fun text => spot.behind? ignoresCase text)).toList
  | both first second, spot => (run ignoresCase first spot).flatMap (run ignoresCase second)
  | either first second, spot => run ignoresCase first spot ++ run ignoresCase second spot
  | repeated inner least most, spot =>
    repeatStep (run ignoresCase inner) (spot.rest.length + least + 1) least most spot

/-- A text that an expression fits within a line. -/
structure Match where
  before : List Char
  text : List Char
  behind : List Char
  groups : List (Nat × List Char)

/-- The longest way to fit an expression at some place. -/
def longest? (ignoresCase : Bool) (expression : RegularExpression) (spot : Spot) : Option Spot :=
  (run ignoresCase expression spot).foldl (fun best after =>
    match best with
    | some other => if after.rest.length < other.rest.length then some after else best
    | none => some after) none

/-- What an expression fits at some place; `passed` are the characters before it,
last one first. -/
def fitHere? (ignoresCase : Bool) (expression : RegularExpression) (passed rest : List Char) :
    Option Match :=
  (longest? ignoresCase expression ⟨passed.head?, rest, []⟩).map fun after =>
    ⟨passed.reverse, rest.take (rest.length - after.rest.length), after.rest, after.groups⟩

/-- The leftmost place where an expression fits, from some place on. -/
def findFrom (ignoresCase : Bool) (expression : RegularExpression) (passed : List Char) :
    List Char → Option Match
  | [] => fitHere? ignoresCase expression passed []
  | c :: rest =>
    (fitHere? ignoresCase expression passed (c :: rest)).or
      (findFrom ignoresCase expression (c :: passed) rest)

/-- The leftmost place where an expression fits a line, and the longest text there. -/
def find? (ignoresCase : Bool) (expression : RegularExpression) (line : List Char) : Option Match :=
  findFrom ignoresCase expression [] line

end RegularExpression

end TmuxLayout.Shell.Tool
