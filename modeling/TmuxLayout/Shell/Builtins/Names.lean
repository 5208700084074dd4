import TmuxLayout.Shell.Builtins.Basic
import TmuxLayout.Shell.Lookup

/-!
# What names stand for

- `Builtin.aliases`, `Builtin.unalias`: texts that stand in for names.
- `Meaning?`, `Builtin.describe`: what a name stands for, and how that is told.
- `Builtin.type`, `Builtin.lookUp`: tell what names stand for.
- `Builtin.hash`: the programs that were looked for.
-/

namespace TmuxLayout.Shell

variable {σ : Type}

/-! ## The order of names -/

/-- The place of a name in a table with a number of places. Tables are shown by
places, and names of one place in the order in which they came. -/
def tablePlace (places : Nat) (name : List Char) : Nat :=
  (16 * (name.headD '\x00').toNat + (name.map Char.toNat).foldl (· + ·) 0) % places

/-- Entries as a table shows them. -/
def inTableOrder {α : Type} (places : Nat) (entries : List (List Char × α)) :
    List (List Char × α) :=
  (List.range places).flatMap fun place =>
    entries.filter fun (name, _) => tablePlace places name = place

namespace Builtin

/-! ## Aliases -/

/-- A line that shows an alias. -/
def aliasLine (name text : List Char) : List Char :=
  name ++ ['='] ++ inQuotes text ++ ['\n']

/-- Sets an alias, or shows it. -/
def aliasOne (argument : List Char) : Run σ Nat := do
  let name := argument.take 1 ++ (argument.drop 1).takeWhile (· ≠ '=')
  match (argument.drop 1).dropWhile (· ≠ '=') with
  | _ :: text =>
    modify fun session => { session with aliases := Run.withEntry name text session.aliases }
    return 0
  | [] =>
    match (← get).aliases.lookup name with
    | some text => put (aliasLine name text)
    | none =>
      warn (ofText "alias: " ++ name ++ ofText " not found")
      return 1

/-- Sets or shows aliases; without arguments, all of them are shown. -/
def aliases : Builtin σ := fun arguments => do
  if arguments.isEmpty then
    put ((inTableOrder 39 (← get).aliases).flatMap fun (name, text) => aliasLine name text)
  else
    let mut status := 0
    for argument in arguments do
      status := max status (← aliasOne argument)
    return status

/-- Takes aliases away. -/
def unalias : Builtin σ := fun arguments => do
  let (options, names) ← options "a" "" arguments
  if !options.isEmpty then
    modify fun session => { session with aliases := [] }
    return 0
  let mut status := 0
  for name in names do
    if ((← get).aliases.lookup name).isNone then
      warn (ofText "unalias: " ++ name ++ ofText " not found")
      status := 1
    modify fun session => { session with aliases := session.aliases.filter (·.1 ≠ name) }
  return status

/-! ## Meanings -/

/-- What a name stands for. -/
inductive NameMeaning where
  | keyword
  | alias (text : List Char)
  | function
  | builtin (special : Bool)
  | program (path : List Char) (noted : Bool)
deriving Repr, DecidableEq

/-- The words that belong to the language. -/
def keywords : List String :=
  ["!", "case", "do", "done", "elif", "else", "esac", "fi", "for", "if", "in", "then", "until",
    "while", "\x7b", "\x7d"]

/-- What a name stands for; programs may be looked for in directories other than
those of `$PATH`. -/
def meaning? (isBuiltin : List Char → Bool) (programs : Programs σ) (path? : Option (List Char))
    (name : List Char) : Run σ (Option NameMeaning) := do
  let session ← get
  if keywords.contains (Run.shown name) then return some .keyword
  if let some text := session.aliases.lookup name then return some (.alias text)
  if name.contains '/' then
    return if (Lookup.kind? programs session name).isSome then some (.program name false) else none
  if path?.isNone && (session.functions.lookup name).isSome then return some .function
  if isBuiltin name then return some (.builtin (isSpecial name))
  if path?.isNone then
    if let some path := session.located.lookup name then return some (.program path true)
  let finding ←
    if path?.isSome then Lookup.program programs path? name else Lookup.programNoted programs name
  match finding with
  | .found path => return some (.program path false)
  | _ => return none

/-- What is told of a name. -/
def description (name : List Char) : NameMeaning → List Char
  | .keyword => name ++ ofText " is a shell keyword"
  | .alias text => name ++ ofText " is an alias for " ++ text
  | .function => name ++ ofText " is a shell function"
  | .builtin special =>
    name ++ ofText (if special then " is a special shell builtin" else " is a shell builtin")
  | .program path noted =>
    name ++ ofText (if noted then " is a tracked alias for " else " is ") ++ path

/-- What would be run for a name. -/
def shortDescription (name : List Char) : NameMeaning → List Char
  | .alias text => ofText "alias " ++ name ++ ['='] ++ inQuotes text
  | .program path _ => path
  | _ => name

/-- The exit status after a name that stands for nothing. -/
def unknownStatus : Nat := 127

/-- Tells what names stand for. -/
def type (isBuiltin : List Char → Bool) (programs : Programs σ) : Builtin σ := fun names => do
  let mut status := 0
  for name in names do
    match ← meaning? isBuiltin programs none name with
    | some meaning => status := max status (← put (description name meaning ++ ['\n']))
    | none =>
      let _ ← put (name ++ ofText ": not found\n")
      status := unknownStatus
  return status

/-- Tells what a name stands for, at length or in short. -/
def lookUp (isBuiltin : List Char → Bool) (programs : Programs σ) : Builtin σ := fun arguments => do
  let (options, arguments) ← options "pvV" "" arguments
  let letters := options.map (·.1)
  match arguments with
  | [] => return 0
  | name :: _ =>
    let isLong := letters.contains 'V'
    if !isLong && !letters.contains 'v' then return 0
    let path? := if letters.contains 'p' then some Lookup.standardPath else none
    match ← meaning? isBuiltin programs path? name with
    | some meaning =>
      put ((if isLong then description name meaning else shortDescription name meaning) ++ ['\n'])
    | none =>
      if isLong then
        let _ ← put (name ++ ofText ": not found\n")
      return unknownStatus

/-- Shows the programs that were looked for, forgets them, or looks for some. -/
def hash (isBuiltin : List Char → Bool) (programs : Programs σ) : Builtin σ := fun arguments => do
  let (options, names) ← options "r" "" arguments
  if !options.isEmpty then
    modify fun session => { session with located := [] }
    return 0
  if names.isEmpty then
    return ← put ((inTableOrder 31 (← get).located).flatMap fun (_, path) => path ++ ['\n'])
  let mut status := 0
  for name in names do
    if !isBuiltin name && !name.contains '/' && ((← get).functions.lookup name).isNone then
      match ← Lookup.programNoted programs name with
      | .found _ => pure ()
      | finding =>
        Run.complain (name ++ ofText
          (if finding = .missing then ": not found" else ": Permission denied"))
        status := 1
  return status

end Builtin

end TmuxLayout.Shell
