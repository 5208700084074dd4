/-!
# Scripts of the shell

A script is a tree of commands; its words are made of pieces that are put
together when a command is run. Inside the shell a text is a list of characters
each of which stands for the octet with its number, so lengths and patterns
count octets.

- `Piece`: a piece of a word.
- `Redirection`: where a descriptor leads to.
- `Command`: a command.
- `specialNames`: the commands that no function can stand for.
-/

namespace TmuxLayout.Shell

/-- What is done with the value of a parameter. A rule about missing values may
take empty ones for missing. -/
inductive Rule where
  | plain
  | length
  /-- The word stands for a missing value. -/
  | orWord (emptyToo : Bool)
  /-- A missing value is set to the word. -/
  | orAssign (emptyToo : Bool)
  /-- A missing value is an error that the word describes. -/
  | orFail (emptyToo : Bool)
  /-- The word stands for a value that is not missing. -/
  | ifPresent (emptyToo : Bool)
  /-- The word is a pattern for what is taken away at the begin. -/
  | dropFront (longest : Bool)
  /-- The word is a pattern for what is taken away at the end. -/
  | dropBack (longest : Bool)
  /-- The word follows the value, and nothing behind it counts. -/
  | valueAndWord
  /-- No such rule exists. -/
  | unknown
deriving Repr, DecidableEq

/-- How a redirection opens its target. -/
inductive RedirectKind where
  | input
  | output
  /-- The same, whatever the shell keeps from being written over. -/
  | overwrite
  | append
  | inputOutput
  /-- The target is the number of another descriptor, or a hyphen to close. -/
  | duplicate
  /-- The target is the text itself. -/
  | here
deriving Repr, DecidableEq

mutual

/-- A piece of a word. What comes from a quoted piece is never split. -/
inductive Piece where
  | text (quoted : Bool) (text : List Char)
  | parameter (quoted : Bool) (name : List Char) (rule : Rule) (word : List Piece)
  /-- The output of a command. -/
  | output (quoted : Bool) (command : Command)
  /-- The value of an expression. -/
  | arithmetic (quoted : Bool) (expression : List Piece)

/-- Where a descriptor leads to. -/
inductive Redirection where
  | mk (descriptor : Nat) (kind : RedirectKind) (target : List Piece)

/-- A command. -/
inductive Command where
  | nothing
  /-- Assignments, words and redirections on a line with a number. -/
  | simple (line : Nat) (assignments : List (List Char × List Piece)) (words : List (List Piece))
      (redirections : List Redirection)
  | pipeline (commands : List Command)
  | negation (command : Command)
  /-- The second is run if the first succeeds. -/
  | both (first second : Command)
  /-- The second is run if the first fails. -/
  | either (first second : Command)
  | sequence (first second : Command)
  | background (command : Command)
  | subshell (command : Command)
  | conditional (test yes no : Command)
  /-- The body is run while the test succeeds, or else until it does. -/
  | loop (whileTrue : Bool) (test body : Command)
  | forEach (name : List Char) (words : List (List Piece)) (body : Command)
  | choice (word : List Piece) (branches : List (List (List Piece) × Command))
  | definition (name : List Char) (body : Command)
  | redirected (command : Command) (redirections : List Redirection)

end

/-- The letters that names begin with. -/
def isNameStart (c : Char) : Bool :=
  c.isAlpha || c = '_'

/-- The characters of names. -/
def isNameChar (c : Char) : Bool :=
  c.isAlphanum || c = '_'

/-- Whether a text is a name. -/
def isName (text : List Char) : Bool :=
  text.head?.any isNameStart && text.all isNameChar

/-- A word as an assignment: a name, an equals sign and a value. -/
def assignment? : List Piece → Option (List Char × List Piece)
  | .text false text :: pieces =>
    let name := text.takeWhile isNameChar
    match text.dropWhile isNameChar with
    | '=' :: value =>
      if isName name then
        some (name, if value.isEmpty then pieces else .text false value :: pieces)
      else none
    | _ => none
  | _ => none

/-- The names of commands that belong to the shell so closely that no function can
have them. -/
def specialNames : List String :=
  [":", ".", "break", "continue", "eval", "exec", "exit", "export", "local", "readonly", "return",
    "set", "shift", "times", "trap", "unset"]

/-- A text within the shell. -/
def ofText (text : String) : List Char :=
  text.toUTF8.toList.map fun octet => Char.ofNat octet.toNat

end TmuxLayout.Shell
