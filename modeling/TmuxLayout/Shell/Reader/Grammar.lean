import TmuxLayout.Shell.Reader.Token

/-!
# Reading commands

- `readList`: commands one after the other.
- `readCommand`: one command.
- `Command.readLine`: the commands up to the end of a line. A script is read
  and run line by line, so what stands before a fault is run.
-/

namespace TmuxLayout.Shell

/-- Where a list of commands stands: on a line of its own, in a place where
there has to be a command, or in one where there may be none. -/
inductive ListPlace where
  | line
  | body
  | tail
deriving Repr, DecidableEq

/-- Whether a token closes a list of commands. -/
def Token.isClosing : Token → Bool
  | ended => true
  | mark name =>
    [")", ";;", "do", "done", "elif", "else", "esac", "fi", "then", "\x7d"].contains name
  | _ => false

/-- Whether a token is a certain mark. -/
def Token.isMark (name : String) : Token → Bool
  | mark other => other = name
  | _ => false

/-- One command behind another. -/
def Command.followedBy : Command → Command → Command
  | nothing, second => second
  | first, second => sequence first second

/-- Reads a mark that has to be there. -/
def expect (inner : Inner) (passLines : Bool) (name : String) (place : TokenPlace) : Parse Unit := do
  let token ← nextToken inner passLines place
  if token.isMark name then return ()
  Parse.unexpected token (some ("\"" ++ name ++ "\""))

/-! ## Simple commands -/

/-- What was read of a simple command; all in reverse. -/
structure SimpleParts where
  assignments : List (List Char × List Piece)
  words : List (List Piece)
  redirections : List Redirection

/-- Reads the definition of a function behind its name and a parenthesis. -/
def readDefinition (inner : Inner) (name : List Piece) : Parse Command := do
  expect inner false ")" .argument
  match plainText name with
  | (text, false) =>
    if isName text && !specialNames.contains (String.ofList text) then
      return .definition text (← inner .command)
    else Parse.fail .badFunctionName
  | _ => Parse.fail .badFunctionName

/-- Reads a simple command, or the definition of a function. -/
def readSimple (inner : Inner) : Parse Command := do
  let line := (← get).line
  iterate (⟨[], [], []⟩ : SimpleParts) fun parts => do
    let token ← nextToken inner false (if parts.words.isEmpty then .firstWord else .argument)
    let finish : Parse (Turn SimpleParts Command) := do
      Parse.hold token
      return .finish (.simple line parts.assignments.reverse parts.words.reverse
        parts.redirections.reverse)
    match token with
    | .word pieces =>
      match parts.words, assignment? pieces with
      | [], some assignment =>
        return .again { parts with assignments := assignment :: parts.assignments }
      | words, _ => return .again { parts with words := pieces :: words }
    | .redirection kind descriptor =>
      let redirection ← readRedirection inner kind descriptor
      return .again { parts with redirections := redirection :: parts.redirections }
    | .mark "(" =>
      match parts with
      | ⟨[], [name], []⟩ => return .finish (← readDefinition inner name)
      | _ => finish
    | _ => finish

/-! ## Compound commands -/

/-- Reads what stands behind `if` or `elif`. -/
def readConditional (inner : Inner) : Parse Command := do
  let firstTest ← inner .body
  expect inner false "then" .start
  let firstBody ← inner .body
  iterate [(firstTest, firstBody)] fun branches => do
    let close (last : Command) : Command :=
      branches.foldl (fun rest (test, body) => .conditional test body rest) last
    let token ← nextToken inner false .start
    if token.isMark "elif" then
      let test ← inner .body
      expect inner false "then" .start
      let body ← inner .body
      return .again ((test, body) :: branches)
    else if token.isMark "else" then
      let last ← inner .body
      expect inner false "fi" .start
      return .finish (close last)
    else if token.isMark "fi" then return .finish (close .nothing)
    else Parse.unexpected token (some "\"fi\"")

/-- Reads what stands behind `while` or `until`. -/
def readLoop (inner : Inner) (whileTrue : Bool) : Parse Command := do
  let test ← inner .body
  expect inner false "do" .start
  let body ← inner .body
  expect inner false "done" .start
  return .loop whileTrue test body

/-- Reads words up to the end of a line or a semicolon. -/
def readWords (inner : Inner) : Parse (List (List Piece)) :=
  iterate ([] : List (List Piece)) fun words => do
    match ← nextToken inner false .argument with
    | .word pieces => return .again (pieces :: words)
    | .newline | .mark ";" => return .finish words.reverse
    | token => Parse.unexpected token none

/-- All arguments, each a word. -/
def allArguments : List (List Piece) :=
  [[.parameter true ['@'] .plain []]]

/-- Reads what stands behind `for`. -/
def readForEach (inner : Inner) : Parse Command := do
  match ← nextToken inner false .argument with
  | .word pieces =>
    match plainText pieces with
    | (name, false) =>
      if !isName name || pieces.length ≠ 1 then Parse.fail .badLoopVariable
      let token ← nextToken inner true .start
      let words ←
        if token.isMark "in" then readWords inner
        else do
          if !token.isMark ";" then Parse.hold token
          pure allArguments
      expect inner true "do" .start
      let body ← inner .body
      expect inner false "done" .start
      return .forEach name words body
    | _ => Parse.fail .badLoopVariable
  | _ => Parse.fail .badLoopVariable

/-- Reads the patterns of a branch up to the closing parenthesis, given the
first token. -/
def readPatterns (inner : Inner) (first : Token) : Parse (List (List Piece)) :=
  iterate (([] : List (List Piece)), first) fun (patterns, token) => do
    let patterns := match token with
      | .word pieces => pieces :: patterns
      | _ => patterns
    let next ← nextToken inner false .argument
    if next.isMark "|" then return .again (patterns, ← nextToken inner false .argument)
    else if next.isMark ")" then return .finish patterns.reverse
    else Parse.unexpected next (some "\")\"")

/-- Reads what stands behind `case`. -/
def readChoice (inner : Inner) : Parse Command := do
  match ← nextToken inner false .argument with
  | .word word =>
    expect inner true "in" .start
    iterate ([] : List (List (List Piece) × Command)) fun branches => do
      let token ← nextToken inner true .start
      if token.isMark "esac" then return .finish (.choice word branches.reverse)
      let first ← if token.isMark "(" then nextToken inner false .argument else pure token
      let patterns ← readPatterns inner first
      let body ← inner .tail
      let branches := (patterns, body) :: branches
      let next ← nextToken inner true .start
      if next.isMark "esac" then return .finish (.choice word branches.reverse)
      else if next.isMark ";;" then return .again branches
      else Parse.unexpected next (some "\";;\"")
  | token => Parse.unexpected token (some "word")

/-- Reads redirections behind a compound command. -/
def withRedirections (inner : Inner) (command : Command) : Parse Command :=
  iterate ([] : List Redirection) fun redirections => do
    match ← nextToken inner false .start with
    | .redirection kind descriptor =>
      return .again ((← readRedirection inner kind descriptor) :: redirections)
    | token =>
      Parse.hold token
      return .finish (if redirections.isEmpty then command
        else .redirected command redirections.reverse)

/-- Reads a command whose first token was read. -/
def readCommandFrom (inner : Inner) (token : Token) : Parse Command := do
  match token with
  | .word _ | .redirection _ _ =>
    Parse.hold token
    readSimple inner
  | .mark "if" => withRedirections inner (← readConditional inner)
  | .mark "while" => withRedirections inner (← readLoop inner true)
  | .mark "until" => withRedirections inner (← readLoop inner false)
  | .mark "for" => withRedirections inner (← readForEach inner)
  | .mark "case" => withRedirections inner (← readChoice inner)
  | .mark "(" =>
    let body ← inner .body
    expect inner false ")" .start
    withRedirections inner (.subshell body)
  | .mark "\x7b" =>
    let body ← inner .body
    expect inner false "\x7d" .start
    withRedirections inner (.redirected body [])
  | token => Parse.unexpected token none

/-- Reads a command; ends of lines before it may be passed over. -/
def readCommand (inner : Inner) (passLines : Bool) : Parse Command := do
  readCommandFrom inner (← nextToken inner passLines .start)

/-! ## Lists -/

/-- Reads commands with pipes between them. -/
def readPipeline (inner : Inner) (passLines : Bool) : Parse Command := do
  let token ← nextToken inner passLines .start
  let negated := token.isMark "!"
  let first ← if negated then readCommand inner false else readCommandFrom inner token
  let pipeline ← iterate [first] fun commands => do
    let token ← nextToken inner false .argument
    if token.isMark "|" then return .again ((← readCommand inner true) :: commands)
    Parse.hold token
    return .finish (match commands with
      | [command] => command
      | commands => .pipeline commands.reverse)
  return if negated then .negation pipeline else pipeline

/-- Reads pipelines of which later ones depend on earlier ones. -/
def readConditions (inner : Inner) : Parse Command := do
  iterate (← readPipeline inner false) fun first => do
    let token ← nextToken inner false .argument
    if token.isMark "&&" then return .again (.both first (← readPipeline inner true))
    else if token.isMark "||" then return .again (.either first (← readPipeline inner true))
    else
      Parse.hold token
      return .finish first

/-- Reads commands one after the other. On a line of its own, nothing may stand
behind them. -/
def readList (inner : Inner) (place : ListPlace) : Parse Command :=
  iterate (Command.nothing, true) fun (done, isFirst) => do
    let token ← nextToken inner (place ≠ .line) .start
    match token with
    | .newline => return .finish done
    | .ended =>
      Parse.hold token
      return .finish done
    | token =>
      Parse.hold token
      if token.isClosing && (place = .tail || (place = .body && !isFirst)) then
        return .finish done
      let command ← readConditions inner
      let next ← nextToken inner false .argument
      match next with
      | .mark "&" => return .again (done.followedBy (.background command), false)
      | .mark ";" => return .again (done.followedBy command, false)
      | .newline | .ended =>
        Parse.hold next
        return .again (done.followedBy command, false)
      | next =>
        if place = .line then Parse.unexpected next none
        Parse.hold next
        return .finish (done.followedBy command)

/-- Reads what stands inside, to some depth. -/
def readInside : Nat → Inner
  | 0, _ => Parse.fail .tooDeep
  | depth + 1, .body => readList (readInside depth) .body
  | depth + 1, .tail => readList (readInside depth) .tail
  | depth + 1, .command => readCommand (readInside depth) true
  | depth + 1, .pieces context => readPieces (readInside depth) context

/-- Reads the commands up to the end of a line of a script, and tells what is
left of the script and the number of the next line. Nesting takes a character a
level, so the length of the script bounds it. Documents stand behind the commands
that ask for them: once they were read, all is read again, as often as one may stand
within another. -/
def Command.readLine (aliases : List (List Char × List Char)) (script : List Char) (line : Nat) :
    Except SyntaxFault (Command × List Char × Nat) := do
  let depth := (script.length + 1) * growth aliases
  let read (known : List (Nat × List Piece)) : Except SyntaxFault (Command × Position) :=
    (readList (readInside depth) .line).run
      ⟨script, line, none, aliases, [], none, 0, [], [], known, none⟩
  let first ← read []
  let (command, position) ← first.2.documents.foldlM (fun (_, position) _ =>
    read position.documents) first
  return (command, position.rest, position.line)

end TmuxLayout.Shell
