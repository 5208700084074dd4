import TmuxLayout.Execution
import TmuxLayout.Shell.Evaluation
import TmuxLayout.Shell.Tools

/-!
# The shell as a runner (SPEC_FULL.md §12)

- `Outside`: what a shell finds when it begins.
- `launch`: a program that is started with arguments, and what becomes of it.
- `runner`: the runner that hands each line to a shell (`ShellRunner`).
-/

namespace TmuxLayout.Shell

variable {σ : Type}

/-- What a shell finds when it begins. -/
structure Outside (σ : Type) where
  environment : List (String × String)
  tree : FileTree
  directory : List String
  /-- The programs besides those of the system, by their paths. -/
  programs : Programs σ

namespace Outside

/-- The variables that keep lines out of the history. -/
def historyVariables : List (String × String) :=
  [("HISTCONTROL", "ignorespace:ignoredups"), ("HISTFILE", "/dev/null")]

/-- The directories where the programs of the system are. -/
def programDirectories : List String :=
  ["/bin/", "/usr/bin/"]

/-- All programs by their paths. -/
def find (outside : Outside σ) : Programs σ := fun path =>
  (outside.programs path).or (do
    let name ← programDirectories.findSome? path.after?
    let tool ← tool? name
    return fun invocation state => (tool invocation, state))

/-- The variables that programs begin with. -/
def exported (outside : Outside σ) : List (List Char × List Char) :=
  let given := outside.environment.filter fun (name, _) => (historyVariables.lookup name).isNone
  (given ++ historyVariables).map fun (name, value) => (ofText name, ofText value)

/-- The number of the first program. -/
def firstProcess : Nat := 4242

/-- A state to start a program in. Its outputs are the first two buffers. -/
def session (outside : Outside σ) (state : σ) : Session σ where
  name := []
  arguments := []
  bindings := []
  functions := []
  aliases := []
  shadowed := []
  functionDepth := 0
  status := 0
  outputStatus := none
  loops := 0
  line := 1
  nextLine := 1
  builtin := none
  flags := []
  tested := false
  optionPlace := (1, none)
  located := []
  mask := 0o022
  limits := []
  traps := []
  ignored := []
  pending := []
  heldStatus := none
  process := firstProcess
  own := firstProcess
  lastProcess := firstProcess
  mail := []
  ancestors := [firstProcess - 1, 1]
  jobs := []
  background := none
  delayed := []
  clock := 0
  tree := outside.tree
  directory := outside.directory
  isDoubled := false
  descriptors := [(0, .nowhere), (1, .buffer 0), (2, .buffer 1)]
  buffers := #[.of [], .of []]
  outside := state

/-- Where a program with a name or path is, if it can be started. -/
def program? (outside : Outside σ) (state : σ) (name : String) : Option (List Char) :=
  let session := outside.session state
  let path := ofText name
  if name.toList.contains '/' then
    if Lookup.kind? outside.find session path = some .program then some path else none
  else
    let directories := Lookup.directories (ofText ((outside.environment.lookup "PATH").getD ""))
    match Lookup.programIn outside.find session path directories with
    | .found path => some path
    | _ => none

end Outside

/-- How deep the steps of a script may be nested. -/
def maxSteps : Nat := 100000

/-- Starts what is at a path with arguments. There is no exit code when a signal
ended it, or when it does not come to an end. -/
def launch (outside : Outside σ) (path name : List Char) (arguments : List (List Char)) (state : σ) :
    CommandOutput × σ :=
  let programs := outside.find
  let start := startProgram programs (perform programs maxSteps) path name arguments
    outside.exported
  let start := andThen start (Run.release fun _ => true)
  let (result, session) := start.run.run (outside.session state)
  let text (index : Nat) : String :=
    Run.shown (((session.buffers[index]?).map Buffer.text).getD [])
  let status := match result with
    | .ok _ => some session.status
    | .error stop => stop.status?
  let code := status.map fun status => ((status % 256 : Nat) : Int)
  (⟨code, text 0, text 1⟩, session.outside)

/-- The runner that hands each line to a shell. -/
def runner (outside : Outside σ) (shell : String) : Runner σ where
  run state line :=
    if line.toList.contains '\x00' then
      (.error (.spawnFailed line "nul byte found in provided data"), state)
    else match outside.program? state shell with
      | some path =>
        let (output, state) := launch outside path (ofText shell) [ofText "-c", ofText line] state
        (.ok output, state)
      | none => (.error (.spawnFailed line "there is no such program"), state)

end TmuxLayout.Shell
