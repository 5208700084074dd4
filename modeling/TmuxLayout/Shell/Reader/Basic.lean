import TmuxLayout.Shell.Script

/-!
# The ground of reading scripts

- `Token`: what a script is made of above characters.
- `SyntaxFault`: why a script cannot be read, and the line where this shows.
- `Parse`: readers; `iterate` repeats one.
- `Goal`, `Inner`: what a reader may ask for inside of what it reads.
-/

namespace TmuxLayout.Shell

/-- What a script is made of above characters. -/
inductive Token where
  | word (pieces : List Piece)
  /-- The operator of a redirection of a descriptor. -/
  | redirection (kind : RedirectKind) (descriptor : Nat)
  /-- An operator or a reserved word. -/
  | mark (name : String)
  | newline
  | ended

/-- A token as messages show it. -/
def Token.shown : Token → String
  | word _ => "word"
  | redirection _ _ => "redirection"
  | mark name => "\"" ++ name ++ "\""
  | newline => "newline"
  | ended => "end of file"

/-- What is wrong with a script. -/
inductive SyntaxCause where
  /-- A token stands where another one, if named, would have to stand. -/
  | unexpected (token : String) (expected : Option String)
  | openQuote
  | openBackquote
  | openBrace
  | openArithmetic
  | badLoopVariable
  | badFunctionName
  | tooDeep
deriving Repr, DecidableEq

/-- The fault in words. -/
def SyntaxCause.message : SyntaxCause → String
  | unexpected token none => token ++ " unexpected"
  | unexpected token (some expected) => token ++ " unexpected (expecting " ++ expected ++ ")"
  | openQuote => "Unterminated quoted string"
  | openBackquote => "EOF in backquote substitution"
  | openBrace => "Missing '\x7d'"
  | openArithmetic => "Missing '))'"
  | badLoopVariable => "Bad for loop variable"
  | badFunctionName => "Bad function name"
  | tooDeep => "nested too deeply"

/-- Why a script cannot be read. -/
structure SyntaxFault where
  line : Nat
  cause : SyntaxCause
deriving Repr, DecidableEq

/-- The line that ends a document. -/
structure DocumentEnd where
  line : List Char
  /-- Whether tabs at the begin of lines do not count. -/
  dropsTabs : Bool
deriving Repr, DecidableEq

/-- A text that is to follow the line where it is asked for. -/
structure Document where
  number : Nat
  ending : DocumentEnd
  /-- Whether it stands for itself. -/
  isPlain : Bool
deriving Repr, DecidableEq

/-- Where a reader stands. -/
structure Position where
  /-- The characters that are left. -/
  rest : List Char
  line : Nat
  /-- A token that was read and is to be read again. -/
  held : Option Token
  /-- Names that stand for texts where a command begins. -/
  aliases : List (List Char × List Char)
  /-- The aliases whose texts are read, with how many characters are left behind
  the text. -/
  inUse : List (List Char × Nat)
  /-- How many characters are left behind the text of an alias that ends in a
  blank: the next word there may be an alias as well. -/
  blankAt : Option Nat
  /-- How many documents were asked for. -/
  documentCount : Nat
  /-- The documents that begin behind the end of the line. -/
  waiting : List Document
  /-- The documents that were read, by their numbers. -/
  documents : List (Nat × List Piece)
  /-- The documents as they are known from an earlier reading. -/
  known : List (Nat × List Piece)
  /-- The end of the document that is being read. -/
  ending : Option DocumentEnd

/-- A reader. -/
abbrev Parse (α : Type) := StateT Position (Except SyntaxFault) α

namespace Parse

/-- The reader fails where it stands. -/
def fail {α : Type} (cause : SyntaxCause) : Parse α := do
  throw ⟨(← get).line, cause⟩

/-- The reader fails at a token. -/
def unexpected {α : Type} (token : Token) (expected : Option String) : Parse α :=
  fail (.unexpected token.shown expected)

/-- Goes on at some characters. -/
def goTo (rest : List Char) : Parse Unit :=
  modify fun position => { position with rest }

/-- Goes on at some characters behind the end of a line. -/
def goToNextLine (rest : List Char) : Parse Unit :=
  modify fun position => { position with rest, line := position.line + 1 }

/-- A text without the escaped ends of lines that stand before its first characters,
up to one that does not fulfil a condition, and how many ends those were. -/
def joined (holds : Char → Bool) : List Char → List Char × Nat
  | [] => ([], 0)
  | '\\' :: '\n' :: rest =>
    let (text, lines) := joined holds rest
    (text, lines + 1)
  | c :: rest =>
    if holds c then
      let (text, lines) := joined holds rest
      (c :: text, lines)
    else (c :: rest, 0)

/-- Joins lines behind a number of characters, up to a character that does not
fulfil a condition. -/
def joinWhile (count : Nat) (holds : Char → Bool) : Parse Unit :=
  modify fun position =>
    let (text, lines) := joined holds (position.rest.drop count)
    { position with rest := position.rest.take count ++ text, line := position.line + lines }

/-- Joins lines behind a number of characters. -/
def joinBehind (count : Nat) : Parse Unit :=
  joinWhile count fun _ => false

/-- Has a token read again. -/
def hold (token : Token) : Parse Unit :=
  modify fun position => { position with held := some token }

/-- Runs a reader for something that has lines of its own: documents that wait so
far begin behind it, and those that it asks for are read in it or are empty. -/
def apart {α : Type} (reader : Parse α) : Parse α := do
  let position ← get
  set { position with waiting := [], ending := none }
  let result ← reader
  modify fun after => { after with waiting := position.waiting, ending := position.ending }
  return result

/-- Runs a reader on other characters, of which lines are counted anew, and comes
back. -/
def within {α : Type} (text : List Char) (reader : Parse α) : Parse α := do
  let position ← get
  set { position with rest := text, line := 1, held := none, inUse := [], blankAt := none }
  let result ← apart reader
  modify fun after => { position with
    documentCount := after.documentCount, documents := after.documents }
  return result

/-- Tells at the begin of a line whether the document that is read ends with it; if
so, it is passed. -/
def endsDocument : Parse Bool := do
  let position ← get
  match position.ending with
  | none => return false
  | some ending =>
    let text := if ending.dropsTabs then position.rest.dropWhile (· = '\t') else position.rest
    let line := text.takeWhile (· ≠ '\n')
    let isEnd := line = ending.line
    if isEnd then
      set { position with rest := (text.drop line.length).tail, line := position.line + 1 }
    else set { position with rest := text }
    return isEnd

end Parse

/-- Whether a repetition goes on, with what it has so far, or ends. -/
inductive Turn (α β : Type) where
  | again (value : α)
  | finish (value : β)

/-- Repeats a reader, a number of times at most. -/
def iterateUpTo {α β : Type} (turn : α → Parse (Turn α β)) : Nat → α → Parse β
  | 0, _ => Parse.fail .tooDeep
  | count + 1, value => do
    match ← turn value with
    | .again value => iterateUpTo turn count value
    | .finish result => return result

/-- How many characters may come of one when aliases are replaced, none of them
within its own text. -/
def growth (aliases : List (List Char × List Char)) : Nat :=
  Nat.pow (1 + (aliases.map (·.2.length)).foldl (· + ·) 0) aliases.length

/-- Repeats a reader that takes a character or a held token each time, so the
number of characters bounds the repetition. -/
def iterate {α β : Type} (start : α) (turn : α → Parse (Turn α β)) : Parse β := do
  let position ← get
  iterateUpTo turn ((position.rest.length + position.aliases.length + 3) * growth position.aliases) start

/-- Where pieces of words are read. -/
inductive Context where
  /-- A word on its own. -/
  | bare
  /-- The word of a rule in braces. -/
  | braces (quoted : Bool)
  /-- Between double quotes. -/
  | quotes
  /-- An expression between double parentheses. -/
  | sum
  /-- A text that follows the line of its redirection. -/
  | document
  /-- The line that ends such a text, perhaps between double quotes. -/
  | ending (quoted : Bool)
deriving Repr, DecidableEq

/-- Whether what is read there counts as quoted. -/
def Context.isQuoted : Context → Bool
  | bare => false
  | braces quoted | ending quoted => quoted
  | quotes | sum | document => true

/-- What a reader may ask for inside of what it reads: commands up to a closing
word that must not come first or may, one command, or pieces of a word. -/
inductive Goal where
  | body
  | tail
  | command
  | pieces (context : Context)

/-- What is read for a goal. -/
abbrev Goal.Result : Goal → Type
  | body | tail | command => Command
  | pieces _ => List Piece

/-- Reads what stands inside. -/
abbrev Inner := (goal : Goal) → Parse goal.Result

end TmuxLayout.Shell
