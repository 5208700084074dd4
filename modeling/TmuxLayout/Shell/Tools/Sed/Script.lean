import TmuxLayout.Shell.Tools.RegularExpression.Reading

/-!
# Scripts that edit lines

A script is a row of commands, which are run for each line. Commands may stand behind
addresses of the lines that they are meant for.

- `Edit.Address`, `Edit.Action`, `Edit.Instruction`: a command and its parts.
- `Edit.Part`: what is put in the place of a text.
-/

namespace TmuxLayout.Shell.Tool.Edit

/-- What is searched for: an expression, or none for the one that was used last. -/
structure Wanted where
  expression : Option RegularExpression
  ignoresCase : Bool

/-- Which line is meant. -/
inductive Address where
  | line (number : Nat)
  | last
  | fits (wanted : Wanted)
  /-- Every so many lines from some line on. -/
  | every (first step : Nat)
  /-- So many lines behind the first one of a range. -/
  | after (count : Nat)
  /-- The next line of which the number is a multiple. -/
  | multiple (factor : Nat)

/-- How letters are written. -/
inductive LetterCase where
  | asGiven
  | upper
  | lower
deriving Repr, DecidableEq

/-- A part of what is put in the place of a text. -/
inductive Part where
  | text (text : List Char)
  | group (number : Nat)
  /-- How all letters from here on are written. -/
  | letters (letterCase : LetterCase)
  /-- How the next letter is written. -/
  | nextLetter (letterCase : LetterCase)

/-- A substitution: what is searched for, what is put in its place, from which place
in the line on, whether that is done again and again, and whether the line is
written then. -/
structure Substitution where
  wanted : Wanted
  parts : List Part
  place : Nat
  all : Bool
  prints : Bool

/-- What a command does. -/
inductive Action where
  | substitute (substitution : Substitution)
  | print
  | printFirst
  /-- Writes the line with all of its characters to be seen, in lines of some width
  if one is given. -/
  | printPlainly (width : Option Nat)
  | delete
  | deleteFirst
  | quit (status : Nat) (silent : Bool)
  | number
  | fileName
  | exchange (pairs : List (Char × Char))
  | append (text : List Char)
  | appendFile (path : List Char)
  | insert (text : List Char)
  | change (text : List Char)
  | next
  | nextAppended
  | hold (appends : Bool)
  | get (appends : Bool)
  | swap
  | empty
  /-- Goes on at a label, or at the end of the script; some only do so behind a
  substitution, or without one. -/
  | branch (label : List Char) (onSubstitution : Option Bool)
  | label (name : List Char)
  /-- The begin of a row of commands, and how many of them there are. -/
  | row (count : Nat)

/-- A command. -/
structure Instruction where
  from? : Option Address
  to? : Option Address
  isNegated : Bool
  action : Action

/-- A script. -/
abbrev Script := List Instruction

/-- The labels that commands go on at. -/
def Script.targets (script : Script) : List (List Char) :=
  script.filterMap fun instruction =>
    match instruction.action with
    | .branch label _ => if label.isEmpty then none else some label
    | _ => none

/-- Where a label stands. -/
def Script.place? (script : Script) (label : List Char) : Option Nat :=
  script.findIdx? fun instruction =>
    match instruction.action with
    | .label name => name = label
    | _ => false

end TmuxLayout.Shell.Tool.Edit
