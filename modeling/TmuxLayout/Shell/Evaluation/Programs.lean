import TmuxLayout.Shell.Evaluation.Redirections

/-!
# Shells and programs

- `readOptions`: the options that a shell is started with.
- `startShell`: a shell within a subshell or a program of its own.
- `startProgram`: runs what is at a path.
- `runProgram`: runs the program with a name.
-/

namespace TmuxLayout.Shell

variable {σ : Type}

/-! ## The start of a shell -/

/-- The variables that a shell sets when it begins, for those that it is given. -/
def firstVariables (session : Session σ) (given : List (List Char × Variable)) :
    List (List Char × Variable) :=
  let plain (name value : String) : List Char × Variable :=
    (ofText name, ⟨some (ofText value), false, false⟩)
  let parent := session.ancestors.headD (session.own - 1)
  let before := [plain "PATH" (Run.shown Lookup.standardPath), plain "PS1" "# ", plain "PS2" "> ",
    plain "PS4" "+ "]
  let behind := [plain "IFS" " \t\n", plain "OPTIND" "1", plain "PPID" (toString parent),
    (ofText "PWD", ⟨some (Builtin.pathOf session), true, false⟩)]
  (given ++ behind).foldl (fun bindings (name, entry) => Run.withEntry name entry bindings) before

/-- What a shell is started with. -/
structure Start where
  flags : List Char
  /-- The options that were told to be off. The others count as set until all of
  them are known. -/
  cleared : List Char
  /-- What is written about options. -/
  listing : List Char
  /-- Whether the script is an argument itself. -/
  isCommand : Bool
  arguments : List (List Char)

/-- What is no option, and what is written before that is told. -/
structure StartFault where
  listing : List Char
  option : List Char

namespace Start

/-- The fault of what is no option. -/
def fault (start : Start) (option : List Char) : StartFault :=
  ⟨start.listing, option⟩

/-- The same with an option set or not. -/
def put (start : Start) (isSet : Bool) (letter : Char) : Start :=
  let cleared := start.cleared.filter (· ≠ letter)
  { start with
    flags := Flag.put isSet letter start.flags
    cleared := if isSet then cleared else letter :: cleared }

/-- The same with the options listed, to be read or as commands. -/
def list (start : Start) (asSettings : Bool) : Start :=
  let flags := (Flag.table.map (·.2)).filter fun letter => !start.cleared.contains letter
  { start with listing :=
      start.listing ++ if asSettings then Flag.settings flags else Flag.commands flags }

end Start

/-- Reads the letters of options; an `o` takes the name of another one from the
arguments, and lists them all if there is none. -/
def readOptionLetters (isSet : Bool) (start : Start) : List Char → Except StartFault Start
  | [] => .ok start
  | 'c' :: letters => readOptionLetters isSet { start with isCommand := true } letters
  | 'l' :: letters => readOptionLetters isSet start letters
  | 'o' :: letters =>
    match start.arguments with
    | name :: arguments =>
      match Flag.ofName? name with
      | some letter =>
        readOptionLetters isSet { start.put isSet letter with arguments } letters
      | none => .error (start.fault (ofText "-o " ++ name))
    | [] => readOptionLetters isSet (start.list isSet) letters
  | letter :: letters =>
    if Flag.isLetter letter then readOptionLetters isSet (start.put isSet letter) letters
    else .error (start.fault ['-', letter])

/-- Reads the options of a shell up to the first argument that is none; the steps
are bounded. -/
def readOptionsUpTo : Nat → Start → Except StartFault Start
  | 0, start => .ok start
  | steps + 1, start =>
    match start.arguments with
    | ['-'] :: rest | ['-', '-'] :: rest => .ok { start with arguments := rest }
    | ('-' :: letters) :: rest => do
      readOptionsUpTo steps (← readOptionLetters true { start with arguments := rest } letters)
    | ('+' :: letters) :: rest => do
      readOptionsUpTo steps (← readOptionLetters false { start with arguments := rest } letters)
    | _ => .ok start

/-- Reads the options of a shell. -/
def readOptions (arguments : List (List Char)) : Except StartFault Start :=
  readOptionsUpTo (arguments.length + 1) ⟨[], [], [], false, arguments⟩

/-- The script that a shell is started with; the session gets the name and the
arguments that belong to it. -/
def startScript (name : List Char) (start : Start) : Run σ (List Char) := do
  match start.isCommand, start.arguments with
  | true, script :: rest =>
    modify fun session => { session with name := rest.headD name, arguments := rest.tail }
    return script
  | true, [] => Run.fail (ofText "-c requires an argument")
  | false, path :: rest =>
    if start.flags.contains 's' then
      modify fun session => { session with arguments := path :: rest }
      Run.readAll 0
    else
      let channel ← openInput path
      modify fun session => { session with name := path, arguments := rest }
      Run.textOf channel
  | false, [] =>
    modify fun session => { session with arguments := [] }
    Run.readAll 0

/-- A shell at its begin, in place of the one that starts it. Signals that are not
to do anything stay so for good. -/
def Session.renewed (session : Session σ) (name : List Char)
    (environment : List (List Char × List Char)) : Session σ :=
  { session with
    name
    arguments := []
    bindings := firstVariables session (environment.filterMap fun (name, value) =>
      if isName name then some (name, ⟨some value, true, false⟩) else none)
    functions := []
    aliases := []
    shadowed := []
    functionDepth := 0
    status := 0
    outputStatus := none
    loops := 0
    line := 0
    nextLine := 1
    builtin := none
    flags := []
    tested := false
    optionPlace := (1, none)
    located := []
    traps := []
    ignored := session.ignored ++
      (session.traps.filter fun (_, action) => action.isEmpty).map fun (signal, _) => signal
    pending := []
    heldStatus := none
    process := session.own
    jobs := []
    background := none }

/-- Runs a shell in place of the one that starts it, given its name and what stands
behind it: options, a script and its arguments. -/
def startShell (perform : Perform σ) (name : List Char) (arguments : List (List Char))
    (environment : List (List Char × List Char)) : Run σ Unit := do
  modify fun session => session.renewed name environment
  toItsEnd perform do
    match readOptions arguments with
    | .error fault =>
      let _ ← Run.write 1 fault.listing
      Run.fail (ofText "Illegal option " ++ fault.option)
    | .ok start =>
      let _ ← Run.write 1 start.listing
      let script ← startScript name start
      modify fun session => { session with flags := start.flags, line := 1 }
      runLines perform script

/-! ## Programs -/

/-- The exit status after a program that is not there. -/
def missingStatus : Nat := 127

/-- The exit status after a file that cannot be run. -/
def forbiddenStatus : Nat := 126

/-- The exit status after a program that was ended since its time was over. -/
def lateStatus : Nat := 124

/-- Runs what is at a path, in place of the shell. -/
def startProgram (programs : Programs σ) (perform : Perform σ) (path name : List Char)
    (arguments : List (List Char)) (environment : List (List Char × List Char)) :
    Run σ (Option Finish) := do
  let session ← get
  let place := Lookup.fullPath session path
  if Lookup.shellPaths.contains place then
    startShell perform name arguments environment
    return none
  match programs place with
  | none => return none
  | some program =>
    let channel := (← Run.channel? 0).getD .nowhere
    let invocation : Invocation :=
      ⟨arguments, environment, ← Run.textOf channel, session.tree, session.directory⟩
    let (finish, outside) := program invocation session.outside
    set { session with outside, tree := finish.changes.getD session.tree }
    if finish.tookInput then Run.setText channel []
    Run.waitUntil (session.clock + max finish.duration leastDuration)
    let _ ← Run.write 1 finish.output
    let _ ← Run.write 2 finish.errorOutput
    Run.setStatus finish.status
    return some finish

/-- Runs the program with a name in the place of the shell, if it is there. -/
def replaceShell (programs : Programs σ) (perform : Perform σ) (finding : Lookup.Finding)
    (name : List Char) (arguments : List (List Char))
    (environment : List (List Char × List Char)) : Run σ (Option Finish) := do
  match finding with
  | .found path => startProgram programs perform path name arguments environment
  | .forbidden =>
    Run.complain (name ++ ofText ": Permission denied")
    Run.setStatus (if name.contains '/' then forbiddenStatus else missingStatus)
    return none
  | .missing =>
    Run.complain (name ++ ofText ": not found")
    Run.setStatus missingStatus
    return none

/-- Where a program is that is named with or without a path. -/
def findProgram (programs : Programs σ) (path? : Option (List Char)) (name : List Char) :
    Run σ Lookup.Finding := do
  if name.isEmpty then return .forbidden
  if name.contains '/' then
    match Lookup.kind? programs (← get) name with
    | some .program => return .found name
    | some _ => return .forbidden
    | none => return .missing
  else if path?.isSome then Lookup.program programs path? name
  else Lookup.programNoted programs name

/-- Runs what a program starts, and gives the status that stands then. -/
def runLaunches (programs : Programs σ) (perform : Perform σ) (finish : Finish) : Run σ Unit := do
  let mut failed := false
  for launch in finish.launches do
    match launch.words with
    | [] => pure ()
    | name :: arguments =>
      match ← findProgram programs none name with
      | .found path =>
        let clock := (← get).clock
        waitFor perform do
          let _ ← startProgram programs perform path name arguments launch.environment
        if let some limit := launch.limit then
          if (← get).clock > clock + limit then
            modify fun session => { session with clock := clock + limit }
            Run.setStatus lateStatus
      | finding =>
        let _ ← Run.write 2 launch.missing
        Run.setStatus (if finding = .missing then missingStatus else forbiddenStatus)
    let status := (← get).status
    failed := failed || (status ≠ 0 && status < forbiddenStatus)
  if failed then finish.failure.forM Run.setStatus

/-- Runs the program with a name in a process of its own, or tells why that is not
possible. -/
def runProgram (programs : Programs σ) (perform : Perform σ) (path? : Option (List Char))
    (name : List Char) (arguments : List (List Char)) : Run σ Unit := do
  let finding ← findProgram programs path? name
  let environment ← Run.exported
  if let .found _ := finding then
    waitFor perform do
      (← replaceShell programs perform finding name arguments environment).forM
        (runLaunches programs perform)
  else
    let _ ← replaceShell programs perform finding name arguments environment

end TmuxLayout.Shell
