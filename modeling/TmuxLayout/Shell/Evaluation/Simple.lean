import TmuxLayout.Shell.Evaluation.Programs

/-!
# Simple commands

- `runFunction`, `runBuiltin`: what a command may be besides a program.
- `Call.ofFields`: what the fields of a command call.
- `withAssignments`: assignments that last as long as a command.
- `runSimple`: runs a simple command.
-/

namespace TmuxLayout.Shell

variable {σ : Type}

/-! ## Functions and commands of the shell itself -/

/-- Gives variables the entries that they had before. -/
def restoreVariables (old : List (List Char × Option Variable)) : Run σ Unit :=
  old.forM fun (name, entry) => do
    match entry with
    | some entry => Run.putVariable name entry
    | none => Run.removeVariable name
    if name = ofText "PATH" then modify fun session => { session with located := [] }

/-- Runs a function. -/
def runFunction (perform : Perform σ) (body : Command) (arguments : List (List Char)) :
    Run σ Unit := do
  let before ← get
  set { before with
    arguments, shadowed := [], functionDepth := before.functionDepth + 1, loops := 0,
    optionPlace := (1, none) }
  let restore : Run σ Unit := do
    restoreVariables (← get).shadowed
    modify fun session =>
      { session with
        arguments := before.arguments
        shadowed := before.shadowed
        functionDepth := before.functionDepth
        loops := before.loops
        optionPlace := before.optionPlace }
  try andThen (perform (.command body)) restore catch
    | .leaveFunction status => Run.setStatus status
    | stop => throw stop

/-- Runs something for which messages name a command that the shell carries out
itself. -/
def asBuiltin {α : Type} (name : List Char) (run : Run σ α) : Run σ α := do
  let outer := (← get).builtin
  modify fun session => { session with builtin := some name }
  andThen run (modify fun session => { session with builtin := outer })

/-- Runs something whose faults only make it fail, unless they are fatal. -/
def survivingFaults (isFatal : Bool) (run : Run σ Unit) : Run σ Unit := do
  try run catch
    | .fault status => if isFatal then throw (.fault status) else Run.setStatus status
    | stop => throw stop

/-! ## Calls -/

/-- What the fields of a command call. -/
structure Call where
  name : List Char
  arguments : List (List Char)
  /-- Whether it was called by `command`: functions are passed over then, and no
  fault ends the shell. -/
  isPlain : Bool
  /-- Whether the programs of the system are meant. -/
  isStandard : Bool

namespace Call

/-- What stands behind `command`, and whether the programs of the system are meant;
nothing if `command` itself is to answer. -/
def behindCommand? : List (List Char) → Option (Bool × List (List Char))
  | [] => none
  | ['-', '-'] :: rest => if rest.isEmpty then none else some (false, rest)
  | ('-' :: letter :: letters) :: rest =>
    if (letter :: letters).all (· = 'p') then
      (behindCommand? rest).map fun (_, arguments) => (true, arguments)
    else none
  | arguments => some (false, arguments)

/-- What is called behind `command`; the steps are bounded. -/
def plainUpTo : Nat → Call → Call
  | 0, call => call
  | steps + 1, call =>
    if call.name = ofText "command" then
      match behindCommand? call.arguments with
      | some (isStandard, name :: arguments) =>
        plainUpTo steps ⟨name, arguments, true, call.isStandard || isStandard⟩
      | _ => call
    else call

/-- What the fields of a command call, for the functions that there are. -/
def ofFields (functions : List (List Char × Command)) (name : List Char)
    (arguments : List (List Char)) : Call :=
  let call := ⟨name, arguments, false, false⟩
  if (functions.lookup name).isSome then call else plainUpTo (arguments.length + 1) call

/-- Whether a fault ends the shell, and assignments before the call last. -/
def isSpecial (call : Call) : Bool :=
  !call.isPlain && Shell.isSpecial call.name

end Call

/-- The file of a script with a name: at its path, or in the directories of
`$PATH`. -/
def findScript (name : List Char) : Run σ (List Char) := do
  if name.contains '/' then return name
  let session ← get
  let candidates := (Lookup.directories ((← Run.value? (ofText "PATH")).getD [])).map fun directory =>
    Lookup.within directory name
  match candidates.find? fun path =>
      session.tree.find session.directory (Run.shown path) matches .ok (.file _) with
  | some path => return path
  | none => Run.fail (name ++ ofText ": not found")

/-- Runs the script in a file. -/
def runFile (perform : Perform σ) (arguments : List (List Char)) : Run σ Unit := do
  match ← Builtin.plainArguments arguments with
  | [] => Run.setStatus 0
  | name :: _ =>
    let path ← findScript name
    let channel ← openInput path
    let script ← Run.textOf channel
    Run.setStatus 0
    asBuiltin path (runLines perform script)

/-- Puts a program in the place of the shell. -/
def runExec (programs : Programs σ) (perform : Perform σ) (arguments : List (List Char)) :
    Run σ Unit := do
  match arguments with
  | [] => Run.setStatus 0
  | name :: arguments =>
    let finding ← findProgram programs none name
    let environment ← Run.exported
    match finding with
    | .found _ =>
      (← replaceShell programs perform finding name arguments environment).forM
        (runLaunches programs perform)
      modify fun session => { session with traps := [] }
      throw (.exit (← get).status)
    | finding =>
      let _ ← replaceShell programs perform finding name arguments environment
      throw (.exit (if finding = .missing then missingStatus else forbiddenStatus))

/-- Runs a call. -/
def Call.run (programs : Programs σ) (perform : Perform σ) (call : Call) : Run σ Unit := do
  let functions := (← get).functions
  let function? := if call.isPlain then none else functions.lookup call.name
  let asOwn (run : Run σ Unit) : Run σ Unit :=
    survivingFaults call.isSpecial (asBuiltin call.name run)
  match function?, builtin? programs call.name, String.ofList call.name with
  | some body, _, _ => runFunction perform body call.arguments
  | none, some builtin, _ => asOwn do Run.setStatus (← builtin call.arguments)
  | none, none, "eval" =>
    asOwn do
      Run.setStatus 0
      runLines perform ([' '].intercalate call.arguments)
  | none, none, "." => asOwn (runFile perform call.arguments)
  | none, none, "exec" => asOwn (runExec programs perform call.arguments)
  | none, none, _ =>
    runProgram programs perform (if call.isStandard then some Lookup.standardPath else none)
      call.name call.arguments

/-! ## Assignments -/

/-- Carries out assignments, and tells the values. -/
def assignAll (perform : Perform σ) (exported : Bool)
    (assignments : List (List Char × List Piece)) : Run σ (List (List Char × List Char)) :=
  assignments.mapM fun (name, pieces) => do
    let value ← (expander perform).assigned pieces
    Run.assign name value
    if exported then
      if let some entry ← Run.entry? name then
        Run.putVariable name { entry with exported := true }
    return (name, value)

/-- Runs something with assignments that last no longer, given their values. -/
def withAssignments (perform : Perform σ) (assignments : List (List Char × List Piece))
    (run : List (List Char × List Char) → Run σ Unit) : Run σ Unit := do
  let names := assignments.map (·.1)
  let old ← names.mapM fun name => return (name, ← Run.entry? name)
  andThen (do run (← assignAll perform true assignments)) (restoreVariables old)

/-- Shows a command on a channel before it is run, if that is asked for. -/
def trace (channel : Option Channel) (fields : List (List Char))
    (assigned : List (List Char × List Char)) : Run σ Unit := do
  if (← get).flags.contains 'x' then
    let head := (← Run.value? (ofText "PS4")).getD []
    let words := assigned.map (fun (name, value) => name ++ ['='] ++ value) ++ fields
    if let some channel := channel then
      Run.writeTo channel (head ++ [' '].intercalate words ++ ['\n'])

/-! ## Simple commands -/

/-- Runs a simple command. -/
def runSimple (programs : Programs σ) (perform : Perform σ) (line : Nat)
    (assignments : List (List Char × List Piece)) (words : List (List Piece))
    (redirections : List Redirection) : Run σ Unit := do
  modify fun session => { session with line, outputStatus := none }
  let channel ← Run.channel? 2
  match ← (expander perform).commandFields words with
  | [] =>
    Run.keepingDescriptors do
      if ← redirectAll perform redirections then
        let assigned ← assignAll perform false assignments
        if !assigned.isEmpty then trace channel [] assigned
        Run.setStatus ((← get).outputStatus.getD 0)
  | name :: arguments =>
    let call := Call.ofFields (← get).functions name arguments
    let run : Run σ Unit := do
      if ← redirectAll perform redirections then
        if call.isSpecial || assignments.isEmpty then
          trace channel (name :: arguments) (← assignAll perform false assignments)
          call.run programs perform
        else
          withAssignments perform assignments fun assigned => do
            trace channel (name :: arguments) assigned
            call.run programs perform
      else if call.isSpecial then throw (.exit Run.faultStatus)
    if call.name = ofText "exec" && call.arguments.isEmpty then run else Run.keepingDescriptors run

end TmuxLayout.Shell
