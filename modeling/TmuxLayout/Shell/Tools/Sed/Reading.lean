import TmuxLayout.Shell.Tools.Basic
import TmuxLayout.Shell.Tools.Sed.Script

/-!
# Texts of scripts that edit lines

- `Edit.Fault`: what is wrong with a script, and where.
- `Edit.read`: reads a script.
-/

namespace TmuxLayout.Shell.Tool.Edit

/-! ## Readers -/

/-- What is wrong with a script, how much of it was left then, and whether that is
not to be told. -/
structure Fault where
  cause : String
  left : Nat
  isPlaceHidden : Bool

/-- A reader: what was read, and what is behind it. -/
abbrev Read (α : Type) := StateT (List Char) (Except Fault) α

/-- Fails where the reader stands. -/
def fail {α : Type} (cause : String) : Read α := do
  throw ⟨cause, (← get).length, false⟩

/-- Fails behind the next character. -/
def failBehind {α : Type} (cause : String) : Read α := do
  modify List.tail
  fail cause

/-- Whether a character is a blank. -/
def isBlank (c : Char) : Bool :=
  c = ' ' || c = '\t'

/-- Passes blanks over. -/
def passBlanks : Read Unit :=
  modify (·.dropWhile isBlank)

/-- Passes a character over if it stands there. -/
def pass (c : Char) : Read Bool := do
  match ← get with
  | d :: rest =>
    if c = d then set rest
    return c == d
  | [] => return false

/-- A number at the begin of the text. -/
def readNumber : Read (Option Nat) := do
  let text ← get
  let digits := text.takeWhile Char.isDigit
  set (text.drop digits.length)
  return decimal? digits

/-! ## Escaped characters -/

/-- The character that at most so many digits of some base stand for, and what is
behind them. -/
def numberedChar? (base most : Nat) (text : List Char) : Option (Char × List Char) :=
  let found := (text.take most).takeWhile fun c => (digitValue? base c).isSome
  if found.isEmpty then none
  else
    (digitsValue? base found).map fun value => (Char.ofNat (value % 256), text.drop found.length)

/-- The character that the text behind a backslash stands for, and what is behind
it. -/
def escapedChar? : List Char → Option (Char × List Char)
  | 'a' :: rest => some ('\x07', rest)
  | 'f' :: rest => some ('\x0c', rest)
  | 'n' :: rest => some ('\n', rest)
  | 'r' :: rest => some ('\x0d', rest)
  | 't' :: rest => some ('\t', rest)
  | 'v' :: rest => some ('\x0b', rest)
  | 'c' :: c :: rest => some (Char.ofNat (c.toUpper.toNat ^^^ 64), rest)
  | 'd' :: rest => numberedChar? 10 3 rest
  | 'o' :: rest => numberedChar? 8 3 rest
  | 'x' :: rest => numberedChar? 16 2 rest
  | _ => none

/-- The text of an expression with escaped characters in place of what stands for
them; the steps are bounded. -/
def plainPattern : Nat → List Char → List Char
  | 0, text => text
  | _, [] => []
  | steps + 1, '\\' :: rest =>
    match escapedChar? rest, rest with
    | some (c, rest), _ => c :: plainPattern steps rest
    | none, c :: rest => '\\' :: c :: plainPattern steps rest
    | none, [] => ['\\']
  | steps + 1, c :: rest => c :: plainPattern steps rest

/-! ## Texts up to a mark -/

/-- Where a reader of an expression stands. -/
inductive BracketState where
  /-- Brackets have no meaning here. -/
  | never
  | outside
  /-- Right behind an opening bracket, or a caret there. -/
  | first
  | inside
  /-- Before the mark that opens a name. -/
  | naming
  /-- In a name within marks. -/
  | named (mark : Char)
deriving Repr, DecidableEq

/-- Where the reader stands behind a character, given the one behind that. -/
def BracketState.after (state : BracketState) (c : Char) (next : Option Char) : BracketState :=
  let within : BracketState :=
    if c = '[' && next.any [':', '.', '='].contains then naming else inside
  match state with
  | never => never
  | outside => if c = '[' then first else outside
  | first => if c = '^' then first else within
  | inside => if c = ']' then outside else within
  | naming => named c
  | named mark => if c = mark && next = some ']' then first else named mark

/-- The text up to a mark, which does not end within brackets of an expression; a
backslash before the mark stands for the mark itself. -/
def untilMark (mark : Char) : BracketState → List Char → Option (List Char × List Char)
  | _, [] => none
  | state, '\\' :: c :: rest =>
    let isPattern := state ≠ .never
    let part :=
      if c = '\n' then [c]
      else if c = 'n' && isPattern then ['\n']
      else if c = mark && (isPattern || c ≠ '&') then [c]
      else ['\\', c]
    let state :=
      if state = .first || state = .inside then (if c = ']' then .outside else .inside) else state
    (untilMark mark state rest).map fun (text, rest) => (part ++ text, rest)
  | state, c :: rest =>
    if c = '\n' then none
    else if c = mark && (state = .never || state = .outside) then some ([], rest)
    else (untilMark mark (state.after c rest.head?) rest).map fun (text, rest) => (c :: text, rest)

/-- The text up to a mark, which has to be there. -/
def readUntil (mark : Char) (isPattern : Bool) (cause : String) : Read (List Char) := do
  let text ← get
  match untilMark mark (if isPattern then .outside else .never) text with
  | some (found, rest) =>
    set rest
    return found
  | none =>
    set (text.dropWhile (· ≠ '\n'))
    fail cause

/-! ## Addresses -/

/-- What is searched for, from the text of an expression. -/
def readWanted (extended : Bool) (text : List Char) (ignoresCase perLine : Bool) : Read Wanted := do
  if text.isEmpty then
    if ignoresCase || perLine then fail "cannot specify modifiers on empty regexp"
    return ⟨none, false⟩
  match RegularExpression.read ⟨extended, false⟩ (plainPattern text.length text) with
  | .ok expression =>
    return ⟨some (if perLine then expression.perLine else expression), ignoresCase⟩
  | .error fault => fail fault.message

/-- The letters behind an expression: whether it ignores case, and whether it is about
lines. The steps are bounded. -/
def readModifiers : Nat → Bool × Bool → Read (Bool × Bool)
  | 0, found => return found
  | steps + 1, (ignoresCase, perLine) => do
    passBlanks
    if ← pass 'I' then readModifiers steps (true, perLine)
    else if ← pass 'M' then readModifiers steps (ignoresCase, true)
    else return (ignoresCase, perLine)

/-- An address, if there is one. -/
def readAddress (extended : Bool) : Read (Option Address) := do
  let expression (mark : Char) : Read (Option Address) := do
    let text ← readUntil mark true "unterminated address regex"
    let (ignoresCase, perLine) ← readModifiers (← get).length (false, false)
    return some (.fits (← readWanted extended text ignoresCase perLine))
  match ← get with
  | '$' :: rest =>
    set rest
    return some .last
  | '/' :: rest =>
    set rest
    expression '/'
  | '\\' :: mark :: rest =>
    set rest
    expression mark
  | '+' :: rest =>
    set rest
    return some (.after ((← readNumber).getD 0))
  | '~' :: rest =>
    set rest
    return some (.multiple ((← readNumber).getD 0))
  | _ =>
    match ← readNumber with
    | some number =>
      passBlanks
      if ← pass '~' then
        passBlanks
        return some (.every number ((← readNumber).getD 0))
      return some (.line number)
    | none => return none

/-- The addresses before a command. -/
def readAddresses (extended : Bool) : Read (Option Address × Option Address) := do
  let from? ← readAddress extended
  match from? with
  | none => return (none, none)
  | some (.after _) | some (.multiple _) => fail "invalid usage of +N or ~N as first address"
  | some first =>
    passBlanks
    let to? ←
      if ← pass ',' then do
        passBlanks
        match ← readAddress extended with
        | some address => pure (some address)
        | none => failBehind "unexpected \x60,'"
      else pure none
    passBlanks
    match first, to? with
    | .line 0, some (.fits _) => return (from?, to?)
    | .line 0, _ => failBehind "invalid usage of line address 0"
    | _, _ => return (from?, to?)

/-! ## Substitutions -/

/-- The parts of what is put in the place of a text; the steps are bounded. -/
def replacementParts : Nat → List Char → List Part
  | 0, _ | _, [] => []
  | steps + 1, '\\' :: rest =>
    match rest with
    | [] => [.text ['\\']]
    | 'L' :: rest => .letters .lower :: replacementParts steps rest
    | 'U' :: rest => .letters .upper :: replacementParts steps rest
    | 'E' :: rest => .letters .asGiven :: replacementParts steps rest
    | 'l' :: rest => .nextLetter .lower :: replacementParts steps rest
    | 'u' :: rest => .nextLetter .upper :: replacementParts steps rest
    | c :: behind =>
      if c.isDigit then .group (c.toNat - '0'.toNat) :: replacementParts steps behind
      else match escapedChar? rest with
        | some (c, rest) => .text [c] :: replacementParts steps rest
        | none => .text [c] :: replacementParts steps behind
  | steps + 1, '&' :: rest => .group 0 :: replacementParts steps rest
  | steps + 1, c :: rest => .text [c] :: replacementParts steps rest

/-- The greatest number of a group in some parts. -/
def greatestGroup (parts : List Part) : Nat :=
  (parts.map fun | .group number => number | _ => 0).foldl max 0

/-- What stands behind a substitution. -/
structure SubstitutionFlags where
  all : Bool
  prints : Bool
  ignoresCase : Bool
  perLine : Bool
  place : Option Nat

/-- The flags of a substitution, with what ends it; the steps are bounded. -/
def readFlags : Nat → SubstitutionFlags → Read SubstitutionFlags
  | 0, flags => return flags
  | steps + 1, flags => do
    match ← get with
    | [] => return flags
    | c :: rest =>
      if c = '\x7d' || c = '#' then return flags
      if c.isDigit then
        if flags.place.isSome then failBehind "multiple number options to \x60s' command"
        let place ← readNumber
        if place = some 0 then fail "number option to \x60s' command may not be zero"
        readFlags steps { flags with place }
      else
        set rest
        match c with
        | '\n' | ';' => return flags
        | ' ' | '\t' => readFlags steps flags
        | 'g' =>
          if flags.all then fail "multiple \x60g' options to \x60s' command"
          readFlags steps { flags with all := true }
        | 'p' =>
          if flags.prints then fail "multiple \x60p' options to \x60s' command"
          readFlags steps { flags with prints := true }
        | 'i' | 'I' => readFlags steps { flags with ignoresCase := true }
        | 'm' | 'M' => readFlags steps { flags with perLine := true }
        | _ => fail "unknown option to \x60s'"

/-- A substitution without its letter. -/
def readSubstitution (extended : Bool) : Read Substitution := do
  let cause := "unterminated \x60s' command"
  match ← get with
  | [] => fail cause
  | mark :: rest =>
    set rest
    let pattern ← readUntil mark true cause
    let text ← readUntil mark false cause
    let flags ← readFlags (← get).length ⟨false, false, false, false, none⟩
    let wanted ← readWanted extended pattern flags.ignoresCase flags.perLine
    let parts := replacementParts text.length text
    let number := greatestGroup parts
    if wanted.expression.any (·.groupCount < number) then
      fail ("invalid reference \\" ++ toString number ++ " on \x60s' command's RHS")
    return ⟨wanted, parts, flags.place.getD 1, flags.all, flags.prints⟩

/-- The characters that a text stands for in an exchange; the steps are bounded. -/
def exchangeChars : Nat → List Char → List Char
  | 0, _ | _, [] => []
  | steps + 1, '\\' :: rest =>
    match escapedChar? rest, rest with
    | some (c, rest), _ | none, c :: rest => c :: exchangeChars steps rest
    | none, [] => ['\\']
  | steps + 1, c :: rest => c :: exchangeChars steps rest

/-- An exchange without its letter. -/
def readExchange : Read (List (Char × Char)) := do
  let cause := "unterminated \x60y' command"
  match ← get with
  | [] => fail cause
  | mark :: rest =>
    set rest
    let first ← readUntil mark false cause
    let second ← readUntil mark false cause
    let first := exchangeChars first.length first
    let second := exchangeChars second.length second
    if first.length ≠ second.length then fail "strings for \x60y' command are different lengths"
    return first.zip second

/-! ## Commands -/

/-- The text up to the end of a line that has no backslash before it, and what is
behind it; the steps are bounded. -/
def lineOfText : Nat → List Char → List Char × List Char
  | 0, text => ([], text)
  | _, [] => ([], [])
  | _ + 1, '\n' :: rest => ([], rest)
  | steps + 1, '\\' :: rest =>
    match escapedChar? rest, rest with
    | some (c, rest), _ | none, c :: rest =>
      let (line, behind) := lineOfText steps rest
      (c :: line, behind)
    | none, [] => ([], [])
  | steps + 1, c :: rest =>
    let (line, behind) := lineOfText steps rest
    (c :: line, behind)

/-- The text of a command that has one. -/
def readText : Read (List Char) := do
  passBlanks
  if (← get).isEmpty then fail "expected \\ after \x60a', \x60c' or \x60i'"
  if ← pass '\\' then
    let _ ← pass '\n'
    if (← get).isEmpty then return []
  let text ← get
  let (line, rest) := lineOfText text.length text
  set rest
  return line ++ ['\n']

/-- The name of a label. -/
def readLabel : Read (List Char) := do
  passBlanks
  let text ← get
  let label := text.takeWhile fun c => !isBlank c && !(['\n', ';', '\x7d'].contains c)
  set (text.drop label.length)
  return label

/-- The name of a file, up to the end of the line. -/
def readPath : Read (List Char) := do
  passBlanks
  let text ← get
  let path := text.takeWhile (· ≠ '\n')
  set (text.drop path.length)
  if path.isEmpty then fail "missing filename in r/R/w/W commands"
  return path

/-- Checks that a command ends, and passes what ends it. -/
def checkEnd : Read Unit := do
  passBlanks
  match ← get with
  | [] => return ()
  | c :: rest =>
    if c = '\x7d' || c = '#' then return ()
    set rest
    if c ≠ '\n' && c ≠ ';' then fail "extra characters after command"

/-- A number behind a letter. -/
def readAmount : Read (Option Nat) := do
  passBlanks
  readNumber

/-- What the command with a letter does; `hasRange` says whether it has two
addresses. -/
def readAction (extended hasRange : Bool) (letter : Char) : Read Action := do
  let simple (action : Action) : Read Action := do
    checkEnd
    return action
  match letter with
  | 's' => return .substitute (← readSubstitution extended)
  | 'y' =>
    let pairs ← readExchange
    simple (.exchange pairs)
  | 'p' => simple .print
  | 'P' => simple .printFirst
  | 'l' =>
    let width ← readAmount
    simple (.printPlainly width)
  | 'd' => simple .delete
  | 'D' => simple .deleteFirst
  | 'q' | 'Q' =>
    if hasRange then fail "command only uses one address"
    let status ← readAmount
    simple (.quit (status.getD 0) (letter == 'Q'))
  | '=' => simple .number
  | 'F' => simple .fileName
  | 'a' => return .append (← readText)
  | 'r' => return .appendFile (← readPath)
  | 'i' => return .insert (← readText)
  | 'c' => return .change (← readText)
  | 'n' => simple .next
  | 'N' => simple .nextAppended
  | 'h' => simple (.hold false)
  | 'H' => simple (.hold true)
  | 'g' => simple (.get false)
  | 'G' => simple (.get true)
  | 'x' => simple .swap
  | 'z' => simple .empty
  | 'b' => return .branch (← readLabel) none
  | 't' => return .branch (← readLabel) (some true)
  | 'T' => return .branch (← readLabel) (some false)
  | ':' =>
    let name ← readLabel
    if name.isEmpty then fail "\":\" lacks a label"
    return .label name
  | letter => fail ("unknown command: \x60" ++ String.ofList [letter] ++ "'")

/-- Passes over what may stand between commands. -/
def passSeparators : Read Unit :=
  modify fun text => text.dropWhile fun c => isBlank c || c = '\n' || c = ';'

/-- Reads commands up to the end of the script, or of a row of them, of which the
begin is given by how much of the script was left there; the steps are bounded. -/
def readCommands (extended : Bool) : Nat → (row : Option Nat) → Read Script
  | 0, _ => return []
  | steps + 1, row => do
    passSeparators
    let text ← get
    if text.isEmpty then
      match row with
      | some left => throw ⟨"unmatched \x60\x7b'", left, true⟩
      | none => return []
    else
      let (from?, to?) ← readAddresses extended
      passBlanks
      let isNegated ← pass '!'
      passBlanks
      match ← get with
      | [] => fail "missing command"
      | letter :: rest =>
        set rest
        match letter with
        | '!' => if isNegated then fail "multiple \x60!'s" else fail "unknown command: \x60!'"
        | '#' =>
          if from?.isSome then fail "comments don't accept any addresses"
          set (rest.dropWhile (· ≠ '\n'))
          readCommands extended steps row
        | '\x7d' =>
          if row.isNone then fail "unexpected \x60\x7d'"
          if from?.isSome then fail "\x60\x7d' doesn't want any addresses"
          checkEnd
          return []
        | '\x7b' =>
          let inner ← readCommands extended steps (some rest.length)
          let others ← readCommands extended steps row
          return ⟨from?, to?, isNegated, .row inner.length⟩ :: inner ++ others
        | ':' =>
          if from?.isSome then fail ": doesn't want any addresses"
          let action ← readAction extended false letter
          return ⟨none, none, false, action⟩ :: (← readCommands extended steps row)
        | letter =>
          let action ← readAction extended to?.isSome letter
          return ⟨from?, to?, isNegated, action⟩ :: (← readCommands extended steps row)

/-- The part of a script in which so many of its characters end, counted from one, and
how many of them belong to that part. -/
def placeInParts : (number : Nat) → (parts : List (List Char)) → Nat → Nat × Nat
  | number, part :: others, count =>
    if count ≤ part.length || others.isEmpty then (number, count)
    else if count = part.length + 1 then (number, part.length)
    else placeInParts (number + 1) others (count - part.length - 1)
  | number, [], count => (number, count)

/-- Reads a script from its parts. The fault tells in which part of them it is, and
after how many characters. -/
def read (extended : Bool) (parts : List (List Char)) : Except (String × Nat × Nat) Script :=
  let text := ['\n'].intercalate parts
  match (readCommands extended (text.length + 2) none).run text with
  | .ok (script, _) => .ok script
  | .error fault =>
    let (number, count) := placeInParts 1 parts (text.length - fault.left)
    .error (fault.cause, number, if fault.isPlaceHidden then 0 else count)

end TmuxLayout.Shell.Tool.Edit
