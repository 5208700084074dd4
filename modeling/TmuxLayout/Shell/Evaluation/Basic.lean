import TmuxLayout.Shell.Builtins
import TmuxLayout.Shell.Reader.Grammar

/-!
# The ground of running scripts

A command is run by one step that may run the commands in it.

- `Job`, `Perform`: what a step may ask for.
- `runLines`: reads and runs a script line by line.
- `runPending`: does what is to be done on signals that have come.
- `toItsEnd`: runs a shell up to its end.
- `inSubshell`: runs something of which only the effects on the outside stay.
- `expander`: what pieces of words need.
-/

namespace TmuxLayout.Shell

variable {σ : Type}

/-- What a step may ask for: a command, or pieces of a word. -/
inductive Job where
  | command (command : Command)
  | pieces (splits : Bool) (pieces : List Piece)

/-- What comes of a job. -/
abbrev Job.Result : Job → Type
  | command _ => Unit
  | pieces _ _ => List Fragment

/-- Does jobs. -/
abbrev Perform (σ : Type) := (job : Job) → Run σ job.Result

/-- Runs something, and something else behind it, whatever ends the first. -/
def andThen {α : Type} (run : Run σ α) (restore : Run σ Unit) : Run σ α := do
  let result ← try run catch stop => do restore; throw stop
  restore
  return result

/-! ## Scripts -/

/-- Reads and runs a script line by line; the steps are bounded. -/
def runLinesUpTo (perform : Perform σ) : (count : Nat) → List Char → (line : Nat) → Run σ Unit
  | 0, _, _ => return ()
  | count + 1, script, line => do
    if script.isEmpty then return ()
    match Command.readLine (← get).aliases script line with
    | .error fault =>
      modify fun session => { session with line := fault.line }
      Run.fail (ofText "Syntax error: " ++ ofText fault.cause.message)
    | .ok (.nothing, rest, nextLine) => runLinesUpTo perform count rest nextLine
    | .ok (command, rest, nextLine) =>
      modify fun session => { session with nextLine }
      perform (.command command)
      runLinesUpTo perform count rest nextLine

/-- Reads and runs a script line by line. -/
def runLines (perform : Perform σ) (script : List Char) : Run σ Unit := do
  let nextLine := (← get).nextLine
  andThen (runLinesUpTo perform (script.length + 1) script 1)
    (modify fun session => { session with nextLine })

/-! ## Signals and the end -/

/-- Runs what is done on a signal. The exit status is the same behind it. -/
def runAction (perform : Perform σ) (action : List Char) : Run σ Unit := do
  let session ← get
  set { session with heldStatus := some (session.heldStatus.getD session.status) }
  andThen (runLines perform action)
    (modify fun after => { after with heldStatus := session.heldStatus })
  Run.setStatus session.status

/-- Does what is to be done on signals that have come. -/
def runPending (perform : Perform σ) : Run σ Unit := do
  let came := (← get).pending
  for signal in came.mergeSort (· ≤ ·) do
    let session ← get
    if session.pending.contains signal then
      set { session with pending := session.pending.filter (· ≠ signal) }
      (session.traps.lookup signal).forM (runAction perform)

/-- The exit status that a shell is left with, unless it was killed or does not
come to an end. -/
def Stop.status? : Stop → Option Nat
  | exit status | fault status | leaveFunction status => some status
  | leaveLoops _ | nextTurn _ => some 0
  | killed _ | endless => none

/-- Runs a shell up to its end or whatever ends it, and then what is to be done at
its end. -/
def toItsEnd (perform : Perform σ) (run : Run σ Unit) : Run σ Unit := do
  let finish (stop : Stop) : Run σ Unit :=
    match stop.status? with
    | some status => Run.setStatus status
    | none => throw stop
  try run catch stop => finish stop
  if let some action := (← get).traps.lookup Signal.ended then
    modify fun session => { session with
      traps := session.traps.filter (·.1 ≠ Signal.ended), loops := 0 }
    try runAction perform action catch stop => finish stop

/-- Runs something of which only the effects on the outside stay, and its exit
status. The signal that has ended it comes back, if one has. -/
def inSubshell (perform : Perform σ) (run : Run σ Unit) : Run σ (Option Signal) := do
  let before ← get
  let process := before.lastProcess + 1
  set { before with
    nextLine := 1
    own := process
    lastProcess := process
    ancestors := before.own :: before.ancestors
    traps := before.traps.filter fun (_, action) => action.isEmpty
    pending := []
    jobs := []
    delayed := [] }
  let stop ← try
      toItsEnd perform run
      pure none
    catch stop => pure (some stop)
  modify fun after =>
    { before with
      tree := after.tree
      buffers := after.buffers.shrink before.buffers.size
      outside := after.outside
      lastProcess := after.lastProcess
      mail := after.mail
      clock := after.clock
      delayed := before.delayed ++
        after.delayed.filter fun text => text.buffer < before.buffers.size
      status := after.status % 256 }
  match stop with
  | some (.killed signal) =>
    Run.setStatus (Signal.status signal)
    return some signal
  | some stop => throw stop
  | none => return none

/-- How long it takes to run anything in a process of its own, in milliseconds. -/
def leastDuration : Nat := 1

/-- Runs something of which only the effects on the outside stay, waits for it, and
tells if a signal has ended it. -/
def waitFor (perform : Perform σ) (run : Run σ Unit) : Run σ Unit := do
  let start := (← get).clock
  Run.waitUntil start
  let killer ← inSubshell perform run
  modify fun session => { session with clock := max session.clock (start + leastDuration) }
  let clock := (← get).clock
  Run.release fun text => text.time < clock
  Run.noticeEnds
  Run.deliver Signal.child
  if let some text := killer.bind Signal.description? then Builtin.warn (ofText text)
  Run.receive

/-! ## Words -/

/-- Takes the ends of lines at the end of a text away. -/
def withoutLastLineEnds (text : List Char) : List Char :=
  (text.reverse.dropWhile (· = '\n')).reverse

/-- Runs something whose output goes to a channel, up to the end of all that writes
there. -/
def waitForOutput (perform : Perform σ) (channel : Channel) (run : Run σ Unit) : Run σ Unit := do
  waitFor perform do
    Run.connect 1 channel
    run
  Run.release fun text => channel = .buffer text.buffer

/-- The output of a command, without octets that are zero. -/
def outputOf (perform : Perform σ) (command : Command) : Run σ (List Char) := do
  let status := (← get).status
  let channel ← Run.newBuffer []
  waitForOutput perform channel (perform (.command command))
  modify fun session => { session with outputStatus := some session.status, status }
  return withoutLastLineEnds ((← Run.textOf channel).filter (· ≠ '\x00'))

/-- What pieces need. -/
def expander (perform : Perform σ) : Expander σ where
  output := outputOf perform
  pieces splits pieces := perform (.pieces splits pieces)

/-- Runs something whose failure the script looks at. -/
def testing (run : Run σ Unit) : Run σ Unit := do
  let tested := (← get).tested
  modify fun session => { session with tested := true }
  andThen run (modify fun session => { session with tested })

end TmuxLayout.Shell
