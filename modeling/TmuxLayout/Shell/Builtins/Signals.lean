import TmuxLayout.Shell.Builtins.Basic

/-!
# Signals and commands in the background

- `Builtin.kill`: sends signals, or lists them.
- `Builtin.trap`: sets what is done on signals.
- `jobMeant?`: the command in the background that a text stands for.
- `Builtin.wait`, `Builtin.jobs`, `Builtin.resume`: about such commands.
-/

namespace TmuxLayout.Shell

variable {σ : Type}

/-! ## Commands in the background -/

/-- What is wrong with a text that stands for a command in the background. -/
inductive JobFault where
  | unknown (text : List Char)
  | noCurrent
  | noPrevious
  /-- There is such a command, but it cannot be brought to the front. -/
  | uncontrolled (text : Option (List Char))
deriving Repr, DecidableEq

/-- The fault in words. -/
def JobFault.message : JobFault → List Char
  | unknown text => ofText "No such job: " ++ text
  | noCurrent => ofText "No current job"
  | noPrevious => ofText "No previous job"
  | uncontrolled text =>
    ofText "job " ++ text.getD (ofText "(null)") ++ ofText " not created under job control"

/-- The command in the background that a text stands for: a percent sign and a
number, or a sign for the last one or the one before it. -/
def jobMeant? (jobs : List BackgroundJob) (text : List Char) : Except JobFault BackgroundJob :=
  match text with
  | ['%'] | ['%', '+'] | ['%', '%'] => jobs.getLast?.elim (.error .noCurrent) .ok
  | ['%', '-'] => jobs.dropLast.getLast?.elim (.error .noPrevious) .ok
  | '%' :: number =>
    (jobs.find? fun job => decimal? number = some job.number).elim (.error (.unknown text)) .ok
  | _ => .error (.unknown text)

namespace Builtin

/-- Fails if a text stands for no command in the background. -/
def jobMeant (text : List Char) : Run σ BackgroundJob := do
  match jobMeant? (← get).jobs text with
  | .ok job => return job
  | .error fault => Run.fail fault.message

/-- Notes that somebody has asked for the status of some commands in the
background. -/
def noteWaited (isMeant : BackgroundJob → Bool) : Run σ Unit :=
  modify fun session => { session with
    jobs := session.jobs.map fun job => if isMeant job then { job with waited := true } else job }

/-- The exit status of a command in the background. If it was ended by a signal,
that is told the first time. -/
def statusOfJob (job : BackgroundJob) : Run σ Nat := do
  Run.waitUntil job.finished
  if !job.waited then
    if let some text := job.killer.bind Signal.description? then warn (ofText text)
  noteWaited fun other => other.process = job.process
  return job.status

/-- Waits for commands in the background, and gives the status of the last one of
them. -/
def wait : Builtin σ := fun arguments => do
  let arguments ← plainArguments arguments
  let mut status := if arguments.isEmpty then 0 else 127
  for text in arguments do
    if text.head? = some '%' then status ← statusOfJob (← jobMeant text)
    else
      let process ← count text
      match (← get).jobs.find? fun job => job.process = process with
      | some job => status ← statusOfJob job
      | none => pure ()
  if arguments.isEmpty then
    Run.waitUntil (((← get).jobs.map BackgroundJob.finished).foldl max 0)
    noteWaited fun _ => true
  return status

/-- A line about a command in the background, with its process if that is asked
for. -/
def jobLine (session : Session σ) (showsProcess : Bool) (job : BackgroundJob) : List Char :=
  let state := match job.killer.bind Signal.description? with
    | some text => text
    | none =>
      if job.finished > session.clock then "Running"
      else if job.status = 0 then "Done"
      else "Done(" ++ toString job.status ++ ")"
  let isCurrent := session.jobs.getLast?.any fun other => other.number = job.number
  let isPrevious := session.jobs.dropLast.getLast?.any fun other => other.number = job.number
  let mark := if isCurrent then "+" else if isPrevious then "-" else " "
  let process := if showsProcess then toString job.process ++ " " else ""
  let line := ofText ("[" ++ toString job.number ++ "] " ++ mark ++ " " ++ process ++ state)
  line ++ List.replicate (33 - line.length) ' ' ++ ['\n']

/-- Shows commands in the background, all of them or those that are named; those that
have ended are forgotten then. -/
def jobs : Builtin σ := fun arguments => do
  let (options, names) ← options "lp" "" arguments
  let tell (job : BackgroundJob) : Run σ Unit := do
    let session ← get
    set { session with jobs := session.jobs.filter fun other =>
      other.number ≠ job.number || other.finished > session.clock }
    let _ ← match options.getLast? with
      | some ('p', _) => put (ofText (toString job.process ++ "\n"))
      | mode => put (jobLine session mode.isSome job)
  if names.isEmpty then (← get).jobs.reverse.forM tell
  names.forM fun name => do tell (← jobMeant name)
  return 0

/-- Would go on with a command in the background, which takes a terminal. -/
def resume : Builtin σ := fun arguments => do
  let arguments ← plainArguments arguments
  let _ ← jobMeant (arguments.headD ['%'])
  Run.fail (JobFault.uncontrolled arguments.head?).message

/-! ## Signals -/

/-- All signals in lines. -/
def signalNames : List Char :=
  ofText ("0\n" ++ String.join ((Signal.names.drop 1).map (· ++ "\n")))

/-- How the command is called. -/
def killUsage : String :=
  "Usage: kill [-s sigspec | -signum | -sigspec] [pid | job]... or\nkill -l [exitstatus]"

/-- Writes the name of a signal that is given by its number or as an exit status. -/
def nameSignal (text : List Char) : Run σ Nat := do
  let number ← count text
  let signal := if number > 128 then number - 128 else number
  if 0 < signal && signal < Signal.bound then put (ofText (Signal.name signal ++ "\n"))
  else Run.fail (ofText "invalid signal number or exit status: " ++ text)

/-- Sends a signal to whatever a text stands for. Commands in the background and
negative numbers stand for groups, of which there are none. -/
def sendTo (signal : Signal) (text : List Char) : Run σ Nat := do
  let isSent ←
    if text.head? = some '%' then do
      let _ ← jobMeant text
      pure false
    else if text.head? = some '-' then do
      let _ ← count text.tail
      pure false
    else do
      let process ← count text
      if process = 0 then Run.send signal (← get).own else Run.send signal process
  if isSent then return 0
  Run.complain (ofText "No such process\n")
  return 1

/-- Sends a signal to shells or commands in the background, or lists signals. -/
def kill : Builtin σ := fun arguments => do
  if arguments.isEmpty then Run.fail (ofText killUsage)
  let named := match arguments with
    | ('-' :: name) :: targets => (Signal.ofName? 1 name).map (·, targets)
    | _ => none
  let (lists, signal, targets) ← match named with
    | some (signal, targets) => pure (false, some signal, targets)
    | none => do
      let (options, targets) ← options "l" "s" arguments
      let signals ← options.filterMapM fun (letter, name) => do
        if letter = 'l' then return none
        match Signal.ofName? 1 name with
        | some signal => return some signal
        | none => Run.fail (ofText "invalid signal number or name: " ++ name)
      pure (options.any fun (letter, _) => letter = 'l', signals.getLast?, targets)
  if lists && signal.isNone then
    match targets with
    | [] => put signalNames
    | text :: _ => nameSignal text
  else if lists || targets.isEmpty then Run.fail (ofText killUsage)
  else
    let mut status := 0
    for target in targets do
      status := max status (← sendTo (signal.getD Signal.terminate) target)
    return status

/-- What is done on signals, as commands that say so. -/
def listTraps : Builtin σ := fun _ => do
  let traps := (← get).traps
  put ((List.range Signal.bound).flatMap fun signal =>
    (traps.lookup signal).elim [] fun action =>
      ofText "trap -- " ++ inQuotes action ++ [' '] ++ ofText (Signal.name signal) ++ ['\n'])

/-- Sets what is done on signals; without an action, what would happen anyway. -/
def setTraps (action : Option (List Char)) : Builtin σ
  | [] => return 0
  | name :: names => do
    match Signal.ofName? 0 name with
    | none =>
      warn (ofText "trap: " ++ name ++ ofText ": bad trap")
      return 1
    | some signal =>
      modify fun session => { session with
        traps := session.traps.filter (·.1 ≠ signal) ++ (action.map (signal, ·)).toList }
      setTraps action names

/-- Sets what is done on signals and at the end of the shell, or shows it. -/
def trap : Builtin σ := fun arguments => do
  match ← plainArguments arguments with
  | [] => listTraps []
  | [name] => setTraps none [name]
  | first :: names =>
    let isNumber := (decimal? first).any (· < Signal.bound)
    if isNumber then setTraps none (first :: names)
    else setTraps (if first = ['-'] then none else some first) names

end Builtin

end TmuxLayout.Shell
