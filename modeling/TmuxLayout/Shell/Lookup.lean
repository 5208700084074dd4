import TmuxLayout.Shell.Condition

/-!
# Looking for files and programs

A name without a slash is looked for in the directories of `$PATH`.

- `Lookup.kind?`: what stands at a path.
- `Lookup.surroundings`: what conditions may look at.
- `Lookup.program`: where the program with a name is.
-/

namespace TmuxLayout.Shell.Lookup

variable {σ : Type}

/-- The devices that are always there. -/
def devices : List String :=
  ["/dev/null", "/dev/zero", "/dev/full", "/dev/tty", "/dev/random", "/dev/urandom"]

/-- Where the shell itself is. -/
def shellPaths : List String :=
  ["sh", "dash", "bash"].flatMap fun name => ["/bin/" ++ name, "/usr/bin/" ++ name]

/-- A path from the root without steps upward. -/
def fullPath (session : Session σ) (path : List Char) : String :=
  "/" ++ "/".intercalate
    (FileTree.simplify [] (FileTree.absolute session.directory (Run.shown path)))

/-- What stands at a path. -/
def kind? (programs : Programs σ) (session : Session σ) (path : List Char) :
    Option Condition.FileKind :=
  match session.tree.find session.directory (Run.shown path) with
  | .ok (.directory _) => some .directory
  | .ok (.file octets) => some (.file octets.isEmpty)
  | .error _ =>
    let place := fullPath session path
    if path.isEmpty then none
    else if devices.contains place then some .device
    else if shellPaths.contains place || (programs place).isSome then some .program
    else none

/-- What conditions may look at. -/
def surroundings (programs : Programs σ) (session : Session σ) : Condition.Surroundings where
  kind? := kind? programs session
  place path := FileTree.simplify [] (FileTree.absolute session.directory (Run.shown path))

/-- What comes of looking for a program. -/
inductive Finding where
  /-- It is at a path. -/
  | found (path : List Char)
  /-- Something is there that cannot be run. -/
  | forbidden
  | missing
deriving Repr, DecidableEq

/-- A name in a directory; the empty one is the current one. -/
def within (directory name : List Char) : List Char :=
  if directory.isEmpty then name else directory ++ ['/'] ++ name

/-- The program with a name in some directories. What cannot be run is passed
over. -/
def programIn (programs : Programs σ) (session : Session σ) (name : List Char)
    (directories : List (List Char)) : Finding :=
  directories.foldr (fun directory others =>
    let path := within directory name
    match kind? programs session path, others with
    | some .program, _ => .found path
    | some _, .missing => .forbidden
    | _, others => others) .missing

/-- The directories of a text with colons between them. -/
def directories (text : List Char) : List (List Char) :=
  FilePath.splitAt ':' text

/-- The directories where the programs of the system are, as `command -p` takes
them. -/
def standardPath : List Char :=
  ofText "/usr/local/sbin:/usr/local/bin:/usr/sbin:/usr/bin:/sbin:/bin"

/-- Where the program with a name is. Without `$PATH` there is none. -/
def program (programs : Programs σ) (path? : Option (List Char)) (name : List Char) :
    Run σ Finding := do
  match ← if path?.isSome then pure path? else Run.value? (ofText "PATH") with
  | some path => return programIn programs (← get) name (directories path)
  | none => return .missing

/-- The same, where a program that was found is kept in mind. -/
def programNoted (programs : Programs σ) (name : List Char) : Run σ Finding := do
  match (← get).located.lookup name with
  | some path => return .found path
  | none =>
    let finding ← program programs none name
    if let .found path := finding then
      modify fun session => { session with located := session.located ++ [(name, path)] }
    return finding

end TmuxLayout.Shell.Lookup
