import TmuxLayout.Log.Pattern.Expression
import TmuxLayout.Number.Decimal
import TmuxLayout.Text.Alphabetic
import TmuxLayout.Text.Search
import TmuxLayout.Text.Space

/-!
# Texts of regular expressions

A text is read from left to right. Flags at the begin of a group may say that white
space and comments in the group are skipped.

- `Pattern.Read`: a reader of some part of an expression.
- `Pattern.Expression.read?`: reads an expression.

The text holds no closing brace, since that ends the value: a repetition that is
counted is never complete in it, and neither is an escape with braces.
-/

namespace TmuxLayout.Pattern

/-! ## Readers -/

/-- Where a reader stands. -/
structure Reading where
  rest : List Char
  /-- Whether white space and comments are skipped. -/
  skips : Bool
deriving Repr, DecidableEq

/-- A reader: what was read, if it can be. -/
abbrev Read (α : Type) := StateT Reading Option α

/-- The next character. -/
def next : Read Char := do
  match (← get).rest with
  | c :: rest => modify ({ · with rest }); return c
  | [] => failure

/-- The next character, which is not passed over, or none at the end. -/
def peek : Read (Option Char) :=
  return (← get).rest.head?

/-- Passes a word over if it stands there. -/
def pass (word : String) : Read Bool := do
  match Text.after? word.toList (← get).rest with
  | some rest => modify ({ · with rest }); return true
  | none => return false

/-- What is behind white space and comments, which go up to the end of their lines. -/
def behindSpace (inComment : Bool) : List Char → List Char
  | [] => []
  | c :: rest =>
    if inComment then behindSpace (c ≠ '\n') rest
    else if c = '#' then behindSpace true rest
    else if Text.isSpace c then behindSpace false rest
    else c :: rest

/-- Passes white space and comments over if they are skipped. -/
def skip : Read Unit :=
  modify fun reading =>
    if reading.skips then { reading with rest := behindSpace false reading.rest } else reading

/-- So many characters, with white space before each that may be skipped. -/
def readSpaced : Nat → Read (List Char)
  | 0 => return []
  | count + 1 => do
    skip
    let c ← next
    return c :: (← readSpaced count)

/-! ## Escapes -/

/-- The letters of escapes for control characters, with these. -/
def controls : List (Char × Char) :=
  [('a', '\x07'), ('f', '\x0c'), ('t', '\t'), ('n', '\n'), ('r', '\x0d'), ('v', '\x0b')]

/-- The letters of categories, in both cases. -/
def categories : List Char :=
  "clmnpszCLMNPSZ".toList

/-- A character with a number of so many hexadecimal digits. -/
def readHexadecimal (count : Nat) : Read Letter := do
  let some number := digitsValue? 16 (← readSpaced count) | failure
  if number.isValidChar then return ⟨Char.ofNat number, count = 2⟩ else failure

/-- What stands behind a backslash. Marks stand for themselves, apart from the
angle brackets; groups are not referred to. -/
def readEscape : Read Expression := do
  match ← next with
  | 'x' => return .char (← readHexadecimal 2)
  | 'u' => return .char (← readHexadecimal 4)
  | 'U' => return .char (← readHexadecimal 8)
  | 'p' | 'P' =>
    if (← readSpaced 1).all categories.contains then return .category else failure
  | 'd' | 's' | 'w' => return .shorthand false
  | 'D' | 'S' | 'W' => return .shorthand true
  | 'A' | 'z' => return .edge
  | 'b' | 'B' | '<' | '>' => return .wordEdge
  | c =>
    match controls.lookup c with
    | some control => return .char ⟨control, false⟩
    | none => if c.toNat < 0x80 && !c.isAlphanum then return .char ⟨c, false⟩ else failure

/-! ## Classes -/

/-- The names of classes between `[:` and `:]`. -/
def classNames : List String :=
  ["alnum", "alpha", "ascii", "blank", "cntrl", "digit", "graph", "lower", "print", "punct",
    "space", "upper", "word", "xdigit"]

/-- Whether a class with a name is negated, and what is behind it, given what is
behind its opening bracket. -/
def namedClass? (text : List Char) : Option (Bool × List Char) := do
  let inside ← Text.after? [':'] text
  let name := (Text.after? ['^'] inside).getD inside
  let word := name.takeWhile (· ≠ ':')
  let behind ← Text.after? [':', ']'] (name.drop word.length)
  if classNames.contains (String.ofList word) then
    some (inside.head? = some '^', behind)
  else none

/-- One member of a class. -/
def readMember : Read CharSet := do
  match ← next with
  | '\\' =>
    let some set := (← readEscape).toCharSet? | failure
    return set
  | c => return .char ⟨c, false⟩

/-- Whether a hyphen joins the ends of a range, given what is behind it. White space
that is skipped has no more than one mark of a comment in it here. -/
def joinsEnds (reading : Reading) : Bool :=
  let behind :=
    if reading.skips then
      match reading.rest.dropWhile Text.isSpace with
      | '#' :: rest => rest.dropWhile Text.isSpace
      | rest => rest
    else reading.rest
  behind.head? ≠ some ']' && behind.head? ≠ some '-'

/-- One member of a class, or a range between two. -/
def readRange : Read CharSet := do
  let first ← readMember
  skip
  let reading ← get
  match reading.rest with
  | '-' :: rest =>
    if joinsEnds { reading with rest } then
      let _ ← next
      skip
      match first, ← readMember with
      | .char low, .char high => if low.c ≤ high.c then return .range low high else failure
      | _, _ => failure
    else return first
  | _ => return first

/-- The operator that begins a text. -/
def operator? : List Char → Option SetOperator
  | '&' :: '&' :: _ => some .intersection
  | '-' :: '-' :: _ => some .difference
  | '~' :: '~' :: _ => some .symmetricDifference
  | _ => none

/-- Where in a class a member stands. -/
inductive Place where
  /-- At the begin, where a closing bracket is a member. -/
  | start
  /-- Behind hyphens at the begin, where hyphens are members. -/
  | hyphens
  | inside
deriving Repr, DecidableEq

mutual

/-- The members of a class up to its end or an operator. -/
def readMembers : Nat → Place → Read CharSet
  | 0, _ => failure
  | count + 1, place => do
    skip
    let rest := (← get).rest
    if place ≠ .inside && rest.head? = some '-' then
      let _ ← next
      return CharSet.adding (.char ⟨'-', false⟩) (← readMembers count .hyphens)
    else if place = .start && rest.head? = some ']' then
      let _ ← next
      return CharSet.adding (.char ⟨']', false⟩) (← readMembers count .inside)
    else if rest.head? = some ']' || (operator? rest).isSome then return .empty
    else if rest.head? = some '[' then
      let _ ← next
      let first ← match namedClass? rest.tail with
        | some (isNegated, behind) =>
          modify ({ · with rest := behind })
          pure (CharSet.named isNegated)
        | none => readClass count
      return CharSet.adding first (← readMembers count .inside)
    else
      let first ← readRange
      return CharSet.adding first (← readMembers count .inside)

/-- The sets that operators join to one, from left to right, up to the end of the
class. -/
def readOperations : Nat → CharSet → Read CharSet
  | 0, _ => failure
  | count + 1, first => do
    match operator? (← get).rest with
    | some operator =>
      let _ ← next
      let _ ← next
      let second ← readMembers count .inside
      readOperations count (.operation operator first second)
    | none => if (← next) = ']' then return first else failure

/-- A class behind its opening bracket. -/
def readClass : Nat → Read CharSet
  | 0 => failure
  | count + 1 => do
    skip
    let isNegated ← pass "^"
    return .bracketed isNegated (← readOperations count (← readMembers count .start))

end

/-! ## Groups -/

/-- How flags change the way to read and to look for what is behind them. -/
structure FlagChange where
  unicode : Option Bool
  skips : Option Bool
deriving Repr, DecidableEq

/-- The letters of flags. -/
def flagLetters : List Char :=
  "imsUuRx".toList

/-- The change that flags make. Those behind a hyphen are switched off; none stands
twice, and neither does the hyphen. -/
def FlagChange.ofChars? (text : List Char) : Option FlagChange :=
  let on := text.takeWhile (· ≠ '-')
  let off := text.drop on.length
  let change (flag : Char) : Option Bool :=
    if on.contains flag then some true else if off.contains flag then some false else none
  if text.all (fun c => c = '-' || flagLetters.contains c) && text.Nodup &&
      text.getLast? ≠ some '-' then
    some ⟨change 'u', change 'x'⟩
  else none

/-- Whether a text may be the name of a group. -/
def isGroupName : List Char → Bool
  | [] => false
  | c :: rest =>
    (c = '_' || Text.isAlphabetic c) &&
      rest.all fun c => "_.[]".contains c || Text.isAlphanumeric c

/-- What an opening parenthesis begins. -/
inductive Opening where
  | group (name : Option (List Char)) (change : FlagChange)
  | flags (change : FlagChange)
deriving Repr, DecidableEq

/-- What an opening parenthesis begins, given what stands behind it. -/
def readOpening : Read Opening := do
  skip
  let rest := (← get).rest
  if let some rest := Text.after? "?P<".toList rest <|> Text.after? "?<".toList rest then
    let name := rest.takeWhile (· ≠ '>')
    modify ({ · with rest := rest.drop (name.length + 1) })
    if isGroupName name then return .group (some name) ⟨none, none⟩ else failure
  else if ← pass "?" then
    let rest := (← get).rest
    let text := rest.takeWhile fun c => c ≠ ':' && c ≠ ')'
    modify ({ · with rest := rest.drop text.length })
    let some change := FlagChange.ofChars? text | failure
    if (← next) = ':' then return .group none change
    else if text.isEmpty then failure
    else return .flags change
  else return .group none ⟨none, none⟩

/-! ## Expressions -/

/-- An expression with all repetitions behind it, each of which may have a question
mark behind it at once; the steps are bounded. -/
def readRepetitions : Nat → Expression → Read Expression
  | 0, _ => failure
  | count + 1, inner => do
    skip
    if (← peek).any ['*', '+', '?'].contains then
      let _ ← next
      let _ ← pass "?"
      readRepetitions count (.repeated inner)
    else return inner

mutual

/-- Expressions to choose from, up to the end of the group. Flags that say what to
skip go beyond the bars. -/
def readChoice : Nat → Read Expression
  | 0 => failure
  | count + 1 => do
    let first ← readSequence count
    if ← pass "|" then return .either first (← readChoice count) else return first

/-- A sequence of expressions, up to a bar or the end of the group. Nothing stands
before a sign of repetition at its begin, and a brace is never closed. -/
def readSequence : Nat → Read Expression
  | 0 => failure
  | count + 1 => do
    skip
    if (← peek).all ['|', ')'].contains then return .empty
    let first ← match ← next with
      | '(' =>
        let skips := (← get).skips
        match ← readOpening with
        | .flags change =>
          modify ({ · with skips := change.skips.getD skips })
          pure (Expression.mode change.unicode)
        | .group name change =>
          modify ({ · with skips := change.skips.getD skips })
          let inner ← readChoice count
          if !(← pass ")") then failure
          modify ({ · with skips })
          readRepetitions count (.group name change.unicode inner)
      | '[' => readRepetitions count (.bracketed (← readClass count))
      | '\\' => readRepetitions count (← readEscape)
      | '.' => readRepetitions count .dot
      | '^' | '$' => readRepetitions count .edge
      | '*' | '+' | '?' | '\x7b' => failure
      | c => readRepetitions count (.char ⟨c, false⟩)
    return first.before (← readSequence count)

end

/-- Reads an expression. No step but those that open something is made without a
character, so twice the length of the text bounds them. -/
def Expression.read? (text : List Char) : Option Expression := do
  let (expression, reading) ← (readChoice (2 * text.length + 2)).run ⟨text, false⟩
  if reading.rest.isEmpty then some expression else none

end TmuxLayout.Pattern
