import TmuxLayout.Shell.Evaluation.Simple

/-!
# Running scripts

A command is run by one step that may run the commands in it; nested steps are
counted, since a script need not come to an end.

- `runLoop`, `runPipeline`, `runBackground`: compound commands.
- `runCommand`: runs any command, given how to run those in it.
- `perform`: runs any command in a number of nested steps.
-/

namespace TmuxLayout.Shell

variable {σ : Type}

/-! ## Loops -/

/-- Runs a turn of a loop that tells whether the loop goes on; so does leaving
it or going on with the next turn. -/
def loopTurn (run : Run σ Bool) : Run σ Bool := do
  modify fun session => { session with loops := session.loops + 1 }
  let restore : Run σ Unit :=
    modify fun session => { session with loops := session.loops - 1 }
  try andThen run restore catch
    | .leaveLoops (count + 2) => throw (.leaveLoops (count + 1))
    | .leaveLoops _ => do
      Run.setStatus 0
      return false
    | .nextTurn (count + 2) => throw (.nextTurn (count + 1))
    | .nextTurn _ => do
      Run.setStatus 0
      return true
    | stop => throw stop

/-- Runs a body for each of some values of a variable. -/
def runForEach (name : List Char) (body : Run σ Unit) : List (List Char) → Run σ Unit
  | [] => return ()
  | value :: values => do
    Run.assign name value
    let goesOn ← loopTurn do
      body
      return true
    if goesOn then runForEach name body values

/-- More turns than any loop has that comes to an end. -/
def maxTurns : Nat := 4294967296

/-- Runs a loop for a number of turns at most. Without another turn the exit status
is that of the last one. -/
def runLoop (perform : Perform σ) (whileTrue : Bool) (test body : Command) :
    (turns : Nat) → Run σ Unit
  | 0 => throw .endless
  | turns + 1 => do
    let last := (← get).status
    let goesOn ← loopTurn do
      testing (perform (.command test))
      if ((← get).status == 0) == whileTrue then
        perform (.command body)
        return true
      else
        Run.setStatus last
        return false
    if goesOn then runLoop perform whileTrue test body turns

/-! ## Other compound commands -/

/-- Runs commands each of which reads what the one before it writes. -/
def runPipeline (perform : Perform σ) (input : Option Channel) : List Command → Run σ Unit
  | [] => return ()
  | [command] =>
    waitFor perform do
      input.forM (Run.connect 0)
      perform (.command command)
  | command :: commands => do
    let output ← Run.newBuffer []
    waitForOutput perform output do
      input.forM (Run.connect 0)
      perform (.command command)
    runPipeline perform (some output) commands

/-- Channels for a command in the background, by those that it would write to. -/
def delayedChannels : List (Nat × Channel) → Run σ (List (Nat × Channel))
  | [] => return []
  | (_, .buffer index) :: descriptors => do
    let others ← delayedChannels descriptors
    if (others.lookup index).isSome then return others
    return (index, ← Run.newBuffer []) :: others
  | _ :: descriptors => delayedChannels descriptors

/-- Runs a command in the background. What it writes is seen later. It gets the
number of the first such command that is done with, or else a new one. -/
def runBackground (perform : Perform σ) (command : Command) : Run σ Unit := do
  let before ← get
  let process := before.lastProcess + 1
  let channels ← delayedChannels before.descriptors
  let killer ← inSubshell perform do
    modify fun session => { session with
      descriptors := session.descriptors.map fun (descriptor, channel) =>
        match channel with
        | .buffer index => (descriptor, (channels.lookup index).getD channel)
        | channel => (descriptor, channel) }
    Run.connect 0 .nowhere
    perform (.command command)
  let session ← get
  let delayed ← channels.mapM fun (buffer, channel) =>
    return (⟨process, session.clock, buffer, ← Run.textOf channel⟩ : Delayed)
  let number := (session.jobs.find? BackgroundJob.waited).elim (session.jobs.length + 1)
    BackgroundJob.number
  let others := session.jobs.filter fun job => job.number ≠ number
  let finished := max session.clock (before.clock + leastDuration)
  let job : BackgroundJob := ⟨number, process, session.status, killer, finished, false, false⟩
  set { session with
    jobs := others ++ [job]
    background := some process
    delayed := session.delayed ++ delayed.filter fun (text : Delayed) => !text.text.isEmpty
    clock := before.clock }
  Run.receive
  Run.setStatus 0

/-- The body of the first branch with a pattern that fits a text. -/
def chosen? (perform : Perform σ) (text : List Char) :
    List (List (List Piece) × Command) → Run σ (Option Command)
  | [] => return none
  | (patterns, body) :: branches => do
    let fits ← patterns.anyM fun pattern => do
      return matchesPattern (plainGlyphs (← perform (.pieces false pattern))) text
    if fits then return some body else chosen? perform text branches

/-! ## Commands -/

/-- Stops the shell after a failure that the script does not look at, if that is
asked for. -/
def stopOnFailure : Run σ Unit := do
  let session ← get
  if session.status ≠ 0 && session.flags.contains 'e' && !session.tested then
    throw (.exit session.status)

/-- Runs a command, given how to do the jobs in it. -/
def runCommand (programs : Programs σ) (perform : Perform σ) : Command → Run σ Unit
  | .nothing => return ()
  | .simple line assignments words redirections => do
    runSimple programs perform line assignments words redirections
    stopOnFailure
  | .pipeline commands => do
    runPipeline perform none commands
    stopOnFailure
  | .negation command => do
    testing (perform (.command command))
    Run.setStatus (statusOf ((← get).status ≠ 0))
  | .both first second => do
    testing (perform (.command first))
    if (← get).status = 0 then perform (.command second)
  | .either first second => do
    testing (perform (.command first))
    if (← get).status ≠ 0 then perform (.command second)
  | .sequence first second => do
    perform (.command first)
    perform (.command second)
  | .background command => runBackground perform command
  | .subshell command => do
    waitFor perform (perform (.command command))
    stopOnFailure
  | .conditional test yes no => do
    testing (perform (.command test))
    let holds := (← get).status = 0
    Run.setStatus 0
    if holds then perform (.command yes) else perform (.command no)
  | .loop whileTrue test body => do
    Run.setStatus 0
    runLoop perform whileTrue test body maxTurns
  | .forEach name words body => do
    let values ← (expander perform).fields words
    Run.setStatus 0
    runForEach name (perform (.command body)) values
  | .choice word branches => do
    let text ← (expander perform).word word
    let body ← chosen? perform text branches
    Run.setStatus 0
    perform (.command (body.getD .nothing))
  | .definition name body => do
    modify fun session =>
      { session with functions := Run.withEntry name body session.functions }
    Run.setStatus 0
  | .redirected command redirections =>
    Run.keepingDescriptors do
      if ← redirectAll perform redirections then perform (.command command)

/-- Does a job, given how to do the jobs in it. Commands are passed over where the
shell is to read only, and what is to be done on signals is done behind each. -/
def step (programs : Programs σ) (perform : Perform σ) : Perform σ
  | .command command => do
    if (← get).flags.contains 'n' then return ()
    runCommand programs perform command
    runPending perform
  | .pieces splits pieces => do
    return (← pieces.mapM ((expander perform).piece splits)).flatten

/-- Does a job in a number of nested steps. -/
def perform (programs : Programs σ) : Nat → Perform σ
  | 0, _ => throw .endless
  | depth + 1, job => step programs (perform programs depth) job

end TmuxLayout.Shell
