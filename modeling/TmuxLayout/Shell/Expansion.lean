import TmuxLayout.Shell.Fields
import TmuxLayout.Shell.Flags
import TmuxLayout.Shell.PathPattern

/-!
# Putting words together

- `Expander`: what pieces need from whatever runs commands.
- `parameterValue?`: the value of a parameter.
- `Expander.piece`: what a piece puts into a word.
- `Expander.fields`, `Expander.text`: words that are split, and words that are not.
-/

namespace TmuxLayout.Shell

variable {σ : Type}

/-- What pieces need from whatever runs commands. -/
structure Expander (σ : Type) where
  /-- The output of a command. -/
  output : Command → Run σ (List Char)
  /-- What pieces put into a word; what stands there as it is may be split. -/
  pieces : (splits : Bool) → List Piece → Run σ (List Fragment)

/-! ## Parameters -/

/-- The separators of fields. -/
def separators : Run σ (List Char) :=
  return (← Run.value? (ofText "IFS")).getD [' ', '\t', '\n']

/-- The arguments in one text. -/
def joinedArguments : Run σ (List Char) := do
  let separator := match ← Run.value? (ofText "IFS") with
    | some (c :: _) => [c]
    | some [] => []
    | none => [' ']
  return separator.intercalate (← get).arguments

/-- The value of a parameter. -/
def parameterValue? (name : List Char) : Run σ (Option (List Char)) := do
  let session ← get
  match name with
  | ['?'] => return some (ofText (toString session.status))
  | ['#'] => return some (ofText (toString session.arguments.length))
  | ['$'] => return some (ofText (toString session.process))
  | ['-'] => return some (Flag.shown session.flags)
  | ['!'] => return session.background.map fun number => ofText (toString number)
  | ['@'] | ['*'] => return some (← joinedArguments)
  | name =>
    match decimal? name with
    | some 0 => return some session.name
    | some (n + 1) => return session.arguments[n]?
    | none => Run.value? name

/-- What all arguments put into a word. Between quotes an at sign keeps each of
them whole, and an asterisk joins them. -/
def argumentFragments (quoted : Bool) (name : List Char) : Run σ (List Fragment) := do
  if quoted && name = ['*'] then return valueFragments true (← joinedArguments)
  return [Fragment.boundary].intercalate ((← get).arguments.map (valueFragments quoted))

/-- What the value of a parameter puts into a word. -/
def parameterFragments (quoted : Bool) (name value : List Char) : Run σ (List Fragment) := do
  if name = ['@'] || name = ['*'] then argumentFragments quoted name
  else return valueFragments quoted value

namespace Expander

/-- The text of pieces that are not split. -/
def text (expander : Expander σ) (pieces : List Piece) : Run σ (List Char) :=
  return plainChars (← expander.pieces false pieces)

/-- What a parameter puts into a word by a rule. -/
def parameter (expander : Expander σ) (quoted : Bool) (name : List Char) (rule : Rule)
    (word : List Piece) : Run σ (List Fragment) := do
  let value ← parameterValue? name
  let isMissing (emptyToo : Bool) : Bool := value.isNone || (emptyToo && value = some [])
  let present := parameterFragments quoted name (value.getD [])
  let standIn : Run σ (List Fragment) := do
    let fragments ← expander.pieces (!quoted) word
    return if quoted then .presence :: fragments else fragments
  let absent : List Fragment := if quoted then [.presence] else []
  let needsValue := match rule with
    | .plain | .length | .dropFront _ | .dropBack _ | .valueAndWord => true
    | _ => false
  if needsValue && value.isNone && (← get).flags.contains 'u' then
    Run.fail (name ++ ofText ": parameter not set")
  match rule with
  | .plain => present
  | .valueAndWord => return (← present) ++ (← expander.pieces (!quoted) word)
  | .length =>
    return valueFragments quoted (ofText (toString (value.getD []).length))
  | .orWord emptyToo => if isMissing emptyToo then standIn else present
  | .ifPresent emptyToo => if isMissing emptyToo then return absent else standIn
  | .orAssign emptyToo =>
    if isMissing emptyToo then
      let value ← expander.text word
      if !isName name then Run.fail (name ++ ofText ": bad variable name")
      Run.assign name value
      return valueFragments quoted value
    else present
  | .orFail emptyToo =>
    if isMissing emptyToo then
      let message ← expander.text word
      let message :=
        if word.isEmpty then
          ofText (if emptyToo then "parameter not set or null" else "parameter not set")
        else message
      Run.fail (name ++ ofText ": " ++ message)
    else present
  | .dropFront longest =>
    let pattern := plainGlyphs (← expander.pieces false word)
    return valueFragments quoted (dropFront longest pattern (value.getD []))
  | .dropBack longest =>
    let pattern := plainGlyphs (← expander.pieces false word)
    return valueFragments quoted (dropBack longest pattern (value.getD []))
  | .unknown => Run.fail (ofText "Bad substitution")

/-! ## Expressions -/

/-- The integer that a text writes, if it has 64 bits; zero for an empty text. -/
def integer? (text : List Char) : Option Int :=
  let text := text.dropWhile (· = ' ')
  let (negative, digits) := Decimal.splitSign text
  if text.isEmpty then some 0
  else if !digits.head?.any Char.isDigit then none
  else
    let (value, rest) := numberAt digits
    let value : Int := if negative then -value else value
    if rest.all (· = ' ') && isInRange value then some value else none

/-- The variables of an expression, whose text messages quote. -/
def storeOf (expression : List Char) : Variables (Run σ) where
  read name := do
    let text := (← parameterValue? name).getD []
    match integer? text with
    | some value => return value
    | none => Run.fail (ofText "Illegal number: " ++ text)
  set name value := Run.assign name (ofText (toString value))
  fail cause := Run.fail
    (ofText "arithmetic expression: " ++ ofText cause.message ++ ofText ": \"" ++ expression ++ ['"'])

/-- The value of the text of an expression. -/
def evaluate (expression : List Char) : Run σ (List Char) := do
  let value ← match Expression.read expression with
    | .ok tree => tree.value (storeOf expression)
    | .error cause => (storeOf expression).fail cause
  return ofText (toString value)

/-! ## Words -/

/-- What a piece puts into a word. -/
def piece (expander : Expander σ) (splits : Bool) : Piece → Run σ (List Fragment)
  | .text quoted text => return literalFragments quoted (splits && !quoted) text
  | .parameter quoted name rule word => expander.parameter quoted name rule word
  | .output quoted command => return valueFragments quoted (← expander.output command)
  | .arithmetic quoted expression => do
    return valueFragments quoted (← evaluate (← expander.text expression))

/-- The home directories of some users. -/
def homes : List (String × String) :=
  [("root", "/root"), ("daemon", "/usr/sbin"), ("bin", "/bin"), ("sys", "/dev"),
    ("nobody", "/nonexistent")]

/-- The home directory of a user, or of whoever runs the shell if no name is given. -/
def home? (name : List Char) : Run σ (Option (List Char)) :=
  if name.isEmpty then Run.value? (ofText "HOME")
  else return (homes.lookup (Run.shown name)).map ofText

/-- A word with the home directory for a tilde at its begin, and the name behind
it. -/
def withHome (pieces : List Piece) : Run σ (List Piece) := do
  match pieces with
  | .text false ('~' :: text) :: rest =>
    let name := text.takeWhile (· ≠ '/')
    let behind := text.drop name.length
    if behind.isEmpty && !rest.isEmpty then return pieces
    match ← home? name with
    | some home => return .text true home :: .text false behind :: rest
    | none => return pieces
  | pieces => return pieces

/-- Pieces of an unquoted text with home directories for tildes where paths begin:
at the start, if `atStart` says so, and behind colons. The text may be the last of
its word; `skipped` characters belong to a name that was read. -/
def homePieces (isLast : Bool) : (skipped : Nat) → (atStart : Bool) → List Char → Run σ (List Piece)
  | _, _, [] => return []
  | skipped + 1, _, _ :: rest => homePieces isLast skipped false rest
  | 0, atStart, c :: rest => do
    let name := rest.takeWhile fun c => c ≠ '/' && c ≠ ':'
    let isWhole := isLast || name.length < rest.length
    let home ← if atStart && c = '~' && isWhole then home? name else pure none
    match home with
    | some home => return .text true home :: (← homePieces isLast name.length false rest)
    | none => return .text false [c] :: (← homePieces isLast 0 (c = ':') rest)

/-- The pieces of an assigned word with home directories in them. -/
def assignedPieces : (atStart : Bool) → List Piece → Run σ (List Piece)
  | _, [] => return []
  | atStart, .text false text :: rest => do
    let pieces ←
      if text.contains '~' then homePieces rest.isEmpty 0 atStart text
      else pure [.text false text]
    return pieces ++ (← assignedPieces false rest)
  | _, piece :: rest => return piece :: (← assignedPieces false rest)

/-- The text of an assigned word. -/
def assigned (expander : Expander σ) (pieces : List Piece) : Run σ (List Char) := do
  expander.text (← assignedPieces true pieces)

/-- The fields of a word; those with patterns stand for paths. -/
def wordFields (expander : Expander σ) (word : List Piece) : Run σ (List (List Char)) := do
  let fragments ← expander.pieces false (← withHome word)
  let fields := splitFields (← separators) fragments
  let session ← get
  if session.flags.contains 'f' then return fields.map fun field => field.map Glyph.char
  return fields.flatMap (PathPattern.expand session)

/-- The fields of words that stand behind some fields. Where the fields so far say
so, words that look like assignments are not split. -/
def fieldsBehind (expander : Expander σ) (assigns : List (List Char) → Bool)
    (done : List (List Char)) : List (List Piece) → Run σ (List (List Char))
  | [] => return done
  | word :: words => do
    match if assigns done then assignment? word else none with
    | some (name, pieces) =>
      let value ← assigned expander pieces
      fieldsBehind expander assigns (done ++ [name ++ ['='] ++ value]) words
    | none => fieldsBehind expander assigns (done ++ (← wordFields expander word)) words

/-- The fields of words. -/
def fields (expander : Expander σ) (words : List (List Piece)) : Run σ (List (List Char)) :=
  fieldsBehind expander (fun _ => false) [] words

/-- The commands whose arguments may be assignments. -/
def assigningNames : List String :=
  ["alias", "export", "local", "readonly"]

/-- Whether arguments behind some fields may be assignments. -/
def takesAssignments (fields : List (List Char)) : Bool :=
  (fields.find? fun field => field ≠ ofText "command" && field.head? ≠ some '-').any fun field =>
    assigningNames.contains (String.ofList field)

/-- The fields of the words of a command. -/
def commandFields (expander : Expander σ) (words : List (List Piece)) : Run σ (List (List Char)) :=
  fieldsBehind expander takesAssignments [] words

/-- The text of a word that is not split. -/
def word (expander : Expander σ) (pieces : List Piece) : Run σ (List Char) := do
  expander.text (← withHome pieces)

end Expander

end TmuxLayout.Shell
