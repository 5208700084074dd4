/-!
# Options (SPEC_FULL.md §14)

The command line holds options and at most one layout file. An option has a long
name behind two hyphens, and may have a letter behind one; letters may stand
together, and the value of an option may follow it directly, behind an equals
sign, or as the next word unless that begins with a hyphen. Behind two hyphens
alone nothing is an option.

- `Switch`, `Setting`, `Question`: options without a value, options with one, and
  options that are answered at once.
- `Options`: what the program is asked to do.
- `Misuse`: why a command line makes no sense.
- `Request`, `Request.ofWords`: what a command line asks for.
-/

namespace TmuxLayout

/-- An option without a value. -/
inductive Switch where
  | verbose
  | noColor
  | default
  | execute
  | batch
  | json
deriving Repr, DecidableEq

/-- An option with a value. -/
inductive Setting where
  | file
  | directory
  | window
deriving Repr, DecidableEq

/-- An option that is answered at once. -/
inductive Question where
  | shortHelp
  | longHelp
  | version
deriving Repr, DecidableEq

/-- An option of any kind. -/
inductive CommandOption where
  | switch (switch : Switch)
  | setting (setting : Setting)
  | question (question : Question)
deriving Repr, DecidableEq

namespace CommandOption

/-- The option with a letter. -/
def ofLetter? : Char → Option CommandOption
  | 'v' => some (switch .verbose)
  | 'e' => some (switch .execute)
  | 'f' => some (setting .file)
  | 'c' => some (setting .directory)
  | 'n' => some (setting .window)
  | 'h' => some (question .shortHelp)
  | 'V' => some (question .version)
  | _ => none

/-- The option with a long name. -/
def ofName? : String → Option CommandOption
  | "verbose" => some (switch .verbose)
  | "no-color" => some (switch .noColor)
  | "default" => some (switch .default)
  | "execute" => some (switch .execute)
  | "batch" => some (switch .batch)
  | "json" => some (switch .json)
  | "file" => some (setting .file)
  | "cwd" => some (setting .directory)
  | "window-name" => some (setting .window)
  | "help" => some (question .longHelp)
  | "version" => some (question .version)
  | _ => none

end CommandOption

/-- What the program is asked to do. -/
structure Options where
  /-- The layout file, given on its own. -/
  layoutFile : Option String
  /-- The layout file, given as an option. -/
  file : Option String
  directory : Option String
  window : Option String
  default : Bool
  execute : Bool
  batch : Bool
  json : Bool
  verbose : Bool
  noColor : Bool
deriving Repr, DecidableEq

/-- Why a command line makes no sense. -/
inductive Misuse where
  | unknown (option : String)
  | repeated (option : String)
  | missingValue (option : String)
  | unexpectedValue (option : String)
  | unexpectedWord (word : String)
  | conflict (option other : String)
  | missingOption (option : String)
deriving Repr, DecidableEq

/-- The fault in words. -/
def Misuse.message : Misuse → String
  | unknown option => "unexpected option '" ++ option ++ "' found"
  | repeated option => "option '" ++ option ++ "' cannot be used more than once"
  | missingValue option => "option '" ++ option ++ "' needs a value"
  | unexpectedValue option => "option '" ++ option ++ "' takes no value"
  | unexpectedWord word => "unexpected word '" ++ word ++ "' found"
  | conflict option other => "option '" ++ option ++ "' cannot be used with " ++ other
  | missingOption option => "option '" ++ option ++ "' is required"

/-- What a command line asks for. -/
inductive Request where
  | answer (question : Question)
  | misuse (misuse : Misuse)
  | run (options : Options)
deriving Repr, DecidableEq

/-! ## Reading words -/

/-- What ends the reading of words at once. -/
inductive Interruption where
  | question (question : Question)
  | misuse (misuse : Misuse)
deriving Repr, DecidableEq

/-- What was read so far. -/
structure Reading where
  switches : List Switch
  settings : List (Setting × String)
  layoutFile : Option String
deriving Repr, DecidableEq

namespace Reading

/-- Nothing was read yet. -/
def start : Reading := ⟨[], [], none⟩

/-- Adds a switch; `shown` is how it was written. -/
def addSwitch (reading : Reading) (shown : String) (switch : Switch) :
    Except Interruption Reading :=
  if switch ∈ reading.switches then .error (.misuse (.repeated shown))
  else .ok { reading with switches := switch :: reading.switches }

/-- Adds the value of a setting; `shown` is how it was written. -/
def addSetting (reading : Reading) (shown : String) (setting : Setting) (value : String) :
    Except Interruption Reading :=
  if (reading.settings.lookup setting).isSome then .error (.misuse (.repeated shown))
  else .ok { reading with settings := (setting, value) :: reading.settings }

/-- Adds a word that is no option. -/
def addWord (reading : Reading) (word : String) : Except Interruption Reading :=
  match reading.layoutFile with
  | some _ => .error (.misuse (.unexpectedWord word))
  | none => .ok { reading with layoutFile := some word }

/-- Reads an option with its long name, and tells the setting whose value is
still to come. -/
def readLong (reading : Reading) (text : List Char) :
    Except Interruption (Reading × Option Setting) := do
  let name := String.ofList (text.takeWhile (· ≠ '='))
  let shown := "--" ++ name
  match CommandOption.ofName? name, text.dropWhile (· ≠ '=') with
  | none, _ => throw (.misuse (.unknown shown))
  | some (.setting setting), _ :: value =>
    return (← reading.addSetting shown setting (String.ofList value), none)
  | some (.setting setting), [] => return (reading, some setting)
  | some _, _ :: _ => throw (.misuse (.unexpectedValue shown))
  | some (.switch switch), [] => return (← reading.addSwitch shown switch, none)
  | some (.question question), [] => throw (.question question)

/-- Reads letters of options, and tells the setting whose value is still to
come. -/
def readLetters (reading : Reading) : List Char → Except Interruption (Reading × Option Setting)
  | [] => .ok (reading, none)
  | letter :: rest =>
    let shown := String.ofList ['-', letter]
    match CommandOption.ofLetter? letter with
    | none => .error (.misuse (.unknown shown))
    | some (.question question) => .error (.question question)
    | some (.switch switch) =>
      match reading.addSwitch shown switch with
      | .error stop => .error stop
      | .ok reading => reading.readLetters rest
    | some (.setting setting) =>
      match rest with
      | [] => .ok (reading, some setting)
      | '=' :: value | value =>
        (reading.addSetting shown setting (String.ofList value)).map (·, none)

/-- Reads all words. -/
def readWords (reading : Reading) : List String → Except Interruption Reading
  | [] => .ok reading
  | word :: words =>
    match word.toList with
    | ['-', '-'] => words.foldlM addWord reading
    | '-' :: c :: text =>
      match if c = '-' then reading.readLong text else reading.readLetters (c :: text) with
      | .error stop => .error stop
      | .ok (reading, none) => reading.readWords words
      | .ok (reading, some setting) =>
        match words with
        | value :: words =>
          match value.toList with
          | '-' :: _ :: _ => .error (.misuse (.missingValue word))
          | _ =>
            match reading.addSetting word setting value with
            | .error stop => .error stop
            | .ok reading => reading.readWords words
        | [] => .error (.misuse (.missingValue word))
    | _ =>
      match reading.addWord word with
      | .error stop => .error stop
      | .ok reading => reading.readWords words

/-- What the words ask for, all together. -/
def options (reading : Reading) : Options where
  layoutFile := reading.layoutFile
  file := reading.settings.lookup .file
  directory := reading.settings.lookup .directory
  window := reading.settings.lookup .window
  default := .default ∈ reading.switches
  execute := .execute ∈ reading.switches
  batch := .batch ∈ reading.switches
  json := .json ∈ reading.switches
  verbose := .verbose ∈ reading.switches
  noColor := .noColor ∈ reading.switches

end Reading

/-- Why options do not go together, if they do not. An option that another one
excludes is not asked for. -/
def Options.misuse? (options : Options) : Option Misuse :=
  if options.file.isSome && options.layoutFile.isSome then
    some (.conflict "--file" "a layout file")
  else if options.default && options.layoutFile.isSome then
    some (.conflict "--default" "a layout file")
  else if options.default && options.file.isSome then some (.conflict "--default" "'--file'")
  else if options.json && options.execute then some (.conflict "--json" "'--execute'")
  else if options.batch && !options.execute && !options.json then some (.missingOption "--execute")
  else none

/-- What a command line asks for. -/
def Request.ofWords (words : List String) : Request :=
  match Reading.start.readWords words with
  | .error (.question asked) => .answer asked
  | .error (.misuse fault) => .misuse fault
  | .ok reading =>
    match reading.options.misuse? with
    | some fault => .misuse fault
    | none => .run reading.options

end TmuxLayout
