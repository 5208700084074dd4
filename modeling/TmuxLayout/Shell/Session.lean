import TmuxLayout.Files.Tree
import TmuxLayout.Shell.Numeral
import TmuxLayout.Shell.Signal

/-!
# Sessions of the shell

A session is all that a command can change: parameters, functions, descriptors,
files, signals that wait, and the state of the programs that it calls, of which
the shell knows only the type.

- `Programs`: the programs that are there.
- `Buffer`: a text that is written at its end and read from its begin.
- `Session`: the state of a shell. Time passes in it only where programs wait.
- `Stop`, `Run`: what runs in a session, and what ends it before its end.
- `Run.write`, `Run.readAll`, `Run.complain`: input, output and messages.
- `Run.deliver`, `Run.send`: signals.
- `Run.release`: what commands in the background have written.
-/

namespace TmuxLayout.Shell

/-! ## Programs -/

/-- What a program is given. -/
structure Invocation where
  arguments : List (List Char)
  environment : List (List Char × List Char)
  input : List Char
  tree : FileTree
  /-- The current directory. -/
  directory : List String

/-- A program that another one starts. -/
structure Launch where
  /-- Its name and its arguments. -/
  words : List (List Char)
  environment : List (List Char × List Char)
  /-- What is told if there is no such program. -/
  missing : List Char
  /-- After how many milliseconds it is ended, if ever. -/
  limit : Option Nat

/-- What a program leaves. -/
structure Finish where
  status : Nat
  output : List Char
  errorOutput : List Char
  /-- Whether the input was read. -/
  tookInput : Bool
  /-- The files, if they have changed. -/
  changes : Option FileTree
  /-- What it starts behind all that, one after the other. The status of the last
  one stands then. -/
  launches : List Launch
  /-- The status that stands if one of them fails, if there is one. -/
  failure : Option Nat
  /-- How many milliseconds have passed. -/
  duration : Nat

/-- A program. -/
abbrev Program (σ : Type) := Invocation → σ → Finish × σ

/-- The programs that are there, by their paths from the root. -/
abbrev Programs (σ : Type) := String → Option (Program σ)

/-! ## The state -/

/-- A variable; it may be marked without having a value. -/
structure Variable where
  value : Option (List Char)
  exported : Bool
  readOnly : Bool
deriving Repr, DecidableEq

/-- Where a descriptor leads to. -/
inductive Channel where
  | nowhere
  /-- A text that is read from its begin and written to at its end. -/
  | buffer (index : Nat)
  /-- The end of a file. -/
  | file (path : String)
deriving Repr, DecidableEq

/-- A text that is read from its begin and written to at its end. -/
structure Buffer where
  front : List Char
  /-- What was written since the text was last read, last part first. -/
  back : List (List Char)

namespace Buffer

/-- A buffer with a text. -/
def of (text : List Char) : Buffer := ⟨text, []⟩

/-- The text. -/
def text (buffer : Buffer) : List Char :=
  if buffer.back.isEmpty then buffer.front else buffer.front ++ buffer.back.reverse.flatten

/-- The buffer with more text at its end. -/
def write (buffer : Buffer) (text : List Char) : Buffer :=
  { buffer with back := text :: buffer.back }

end Buffer

/-- A command that was run in the background. -/
structure BackgroundJob where
  /-- Its number among such commands. -/
  number : Nat
  /-- The number of the subshell that ran it. -/
  process : Nat
  status : Nat
  /-- The signal that has ended it, if one has. -/
  killer : Option Signal
  /-- When it has ended, in milliseconds. -/
  finished : Nat
  /-- Whether the shell got the signal that tells of its end. -/
  noticed : Bool
  /-- Whether somebody has asked for the status. -/
  waited : Bool
deriving Repr, DecidableEq

/-- What a command in the background has written and nobody could see yet. -/
structure Delayed where
  process : Nat
  /-- When it can be seen, in milliseconds. -/
  time : Nat
  /-- The index of the buffer that it belongs to. -/
  buffer : Nat
  text : List Char
deriving Repr, DecidableEq

/-- The state of a shell. -/
structure Session (σ : Type) where
  /-- What the shell was called. -/
  name : List Char
  arguments : List (List Char)
  bindings : List (List Char × Variable)
  functions : List (List Char × Command)
  aliases : List (List Char × List Char)
  /-- The variables that the current function has made its own, as they were. -/
  shadowed : List (List Char × Option Variable)
  /-- How many functions the current command is in. -/
  functionDepth : Nat
  /-- The exit status of the last command. -/
  status : Nat
  /-- The exit status of the last command whose output was put into the current
  one. -/
  outputStatus : Option Nat
  /-- How many loops the current command is in. -/
  loops : Nat
  /-- The line of the current command. -/
  line : Nat
  /-- The line that is read next where commands come from. -/
  nextLine : Nat
  /-- The command that the shell itself carries out. -/
  builtin : Option (List Char)
  /-- The letters of the options that are set. -/
  flags : List Char
  /-- Whether a failure is looked at by the script, and so no reason to stop. -/
  tested : Bool
  /-- The number of the argument that options are read from next, and how much of
  the one before it is behind the option that was read last. -/
  optionPlace : Nat × Option (List Char)
  /-- The programs that were looked for, with their paths. -/
  located : List (List Char × List Char)
  /-- The rights that new files do not get. -/
  mask : Nat
  /-- Limits that were set, by their letters. -/
  limits : List (Char × List Char)
  /-- What is done on signals; an empty text stands for nothing. -/
  traps : List (Signal × List Char)
  /-- The signals that were ignored when the shell began. -/
  ignored : List Signal
  /-- The signals that have come and wait for what is done on them. -/
  pending : List Signal
  /-- The exit status from before what is just done on signals. -/
  heldStatus : Option Nat
  /-- The number of the shell, also within its subshells. -/
  process : Nat
  /-- The number of the shell or subshell itself. -/
  own : Nat
  /-- The largest number in use. -/
  lastProcess : Nat
  /-- Signals for others, which get them when they go on. -/
  mail : List (Nat × Signal)
  /-- The shells that wait for this one. -/
  ancestors : List Nat
  jobs : List BackgroundJob
  /-- The number of the last command in the background. -/
  background : Option Nat
  delayed : List Delayed
  /-- How many milliseconds have passed. -/
  clock : Nat
  tree : FileTree
  /-- The current directory. -/
  directory : List String
  /-- Whether the path of the current directory is written with two slashes at its
  begin, as it was given. -/
  isDoubled : Bool
  descriptors : List (Nat × Channel)
  buffers : Array Buffer
  /-- The state of the programs. -/
  outside : σ

/-- What ends a command before its end. -/
inductive Stop where
  | exit (status : Nat)
  /-- A fault that ends a shell, and only fails a command that it carries out
  itself. -/
  | fault (status : Nat)
  /-- Some loops are left. -/
  | leaveLoops (count : Nat)
  /-- Some loops but one are left, and that one goes on. -/
  | nextTurn (count : Nat)
  | leaveFunction (status : Nat)
  | killed (signal : Signal)
  /-- The shell does not come to an end. -/
  | endless
deriving Repr, DecidableEq

/-- What runs in a session. -/
abbrev Run (σ α : Type) := ExceptT Stop (StateM (Session σ)) α

namespace Run

variable {σ : Type}

/-! ## Variables -/

/-- The variable with a name. -/
def entry? (name : List Char) : Run σ (Option Variable) :=
  return (← get).bindings.lookup name

/-- The value of a variable. -/
def value? (name : List Char) : Run σ (Option (List Char)) :=
  return (← entry? name).bind Variable.value

/-- An entry under a key, in the place of the old one. -/
def withEntry {κ α : Type} [DecidableEq κ] (key : κ) (value : α) : List (κ × α) → List (κ × α)
  | [] => [(key, value)]
  | (other, old) :: entries =>
    if other = key then (key, value) :: entries else (other, old) :: withEntry key value entries

/-- Puts a variable in the place of the one with its name. -/
def putVariable (name : List Char) (entry : Variable) : Run σ Unit :=
  modify fun session =>
    { session with bindings := withEntry name entry session.bindings }

/-- Takes a variable away. -/
def removeVariable (name : List Char) : Run σ Unit :=
  modify fun session =>
    { session with bindings := session.bindings.filter (·.1 ≠ name) }

/-- The variables that programs get to see. -/
def exported : Run σ (List (List Char × List Char)) :=
  return (← get).bindings.filterMap fun (name, entry) =>
    if entry.exported then entry.value.map (name, ·) else none

/-! ## Input and output -/

/-- Where a descriptor leads to. -/
def channel? (descriptor : Nat) : Run σ (Option Channel) :=
  return (← get).descriptors.lookup descriptor

/-- Makes a text that can be read from and written to. -/
def newBuffer (text : List Char) : Run σ Channel := do
  let session ← get
  set { session with buffers := session.buffers.push (.of text) }
  return .buffer session.buffers.size

/-- The text of a channel. -/
def textOf (channel : Channel) : Run σ (List Char) :=
  match channel with
  | .buffer index => return (((← get).buffers[index]?).map Buffer.text).getD []
  | _ => return []

/-- Changes a buffer. -/
def changeBuffer (index : Nat) (change : Buffer → Buffer) : Run σ Unit :=
  modify fun session => { session with buffers := session.buffers.modify index change }

/-- Changes the text of a channel. -/
def setText (channel : Channel) (text : List Char) : Run σ Unit :=
  match channel with
  | .buffer index => changeBuffer index fun _ => .of text
  | _ => return ()

/-- The octets of a text. -/
def octetsOf (text : List Char) : Octets :=
  text.map fun c => UInt8.ofNat c.toNat

/-- The text with octets. -/
def textOfOctets (octets : Octets) : List Char :=
  octets.map fun octet => Char.ofNat octet.toNat

/-- The text of a shell as a text of the outside. -/
def shown (text : List Char) : String :=
  Octets.decodeLossy (octetsOf text)

/-- Writes to a channel. -/
def writeTo (channel : Channel) (text : List Char) : Run σ Unit := do
  match channel with
  | .nowhere => return ()
  | .buffer index => changeBuffer index (·.write text)
  | .file path =>
    modify fun session =>
      let old := match session.tree.find session.directory path with
        | .ok (.file octets) => octets
        | _ => []
      { session with tree := session.tree.write session.directory path (old ++ octetsOf text) }

/-- Writes to a descriptor, and tells whether that was possible. -/
def write (descriptor : Nat) (text : List Char) : Run σ Bool := do
  match ← channel? descriptor with
  | some channel =>
    writeTo channel text
    return true
  | none => return text.isEmpty

/-- All that is left to read. -/
def readAll (descriptor : Nat) : Run σ (List Char) := do
  match ← channel? descriptor with
  | some channel =>
    let text ← textOf channel
    setText channel []
    return text
  | none => return []

/-! ## Messages -/

/-- The text that messages begin with: the name of the shell, the line, and the
command that the shell carries out itself. -/
def messageHead : Run σ (List Char) := do
  let session ← get
  let builtin := session.builtin.elim [] (· ++ ofText ": ")
  return session.name ++ ofText ": " ++ ofText (toString session.line) ++ ofText ": " ++ builtin

/-- Writes a message. -/
def complain (message : List Char) : Run σ Unit := do
  let _ ← write 2 ((← messageHead) ++ message ++ ['\n'])

/-- The exit status after a fault. -/
def faultStatus : Nat := 2

/-- Writes a message and stops. -/
def fail {α : Type} (message : List Char) : Run σ α := do
  complain message
  throw (.fault faultStatus)

/-- Sets the exit status. -/
def setStatus (status : Nat) : Run σ Unit :=
  modify fun session => { session with status }

/-- What setting a variable does besides: `$OPTIND` tells where options are read
from, and programs are looked for again after a change of `$PATH`. -/
def noticeChange (name value : List Char) : Run σ Unit := do
  if name = ofText "OPTIND" then
    match Numeral.count? value with
    | some count => modify fun session => { session with optionPlace := (max count 1, none) }
    | none => fail (ofText "Illegal number: " ++ value)
  else if name = ofText "PATH" then
    modify fun session => { session with located := [] }

/-- Gives a variable a value, unless it is read-only. -/
def assign (name value : List Char) : Run σ Unit := do
  let old ← entry? name
  if old.any Variable.readOnly then fail (name ++ ofText ": is read only")
  let allExported := (← get).flags.contains 'a'
  putVariable name ⟨some value, allExported || old.any Variable.exported, false⟩
  noticeChange name value

/-- Gives a variable a value if its name is one. -/
def assignChecked (name value : List Char) : Run σ Unit := do
  if !isName name then fail (name ++ ofText ": bad variable name")
  assign name value

/-- Runs something after which the descriptors are as before. -/
def keepingDescriptors {α : Type} (run : Run σ α) : Run σ α := do
  let descriptors := (← get).descriptors
  let restore : Run σ Unit := modify fun session => { session with descriptors }
  let result ← try run catch stop => do restore; throw stop
  restore
  return result

/-- Makes descriptors lead to a channel. -/
def connect (descriptor : Nat) (channel : Channel) : Run σ Unit :=
  modify fun session =>
    { session with
      descriptors := (descriptor, channel) :: session.descriptors.filter (·.1 ≠ descriptor) }

/-! ## Signals -/

/-- Takes a signal in. It waits if something is to be done on it; else it may end
the shell. -/
def deliver (signal : Signal) : Run σ Unit := do
  let session ← get
  if signal = Signal.kill then throw (.killed signal)
  if signal = 0 || session.ignored.contains signal then return ()
  match session.traps.lookup signal with
  | some [] => return ()
  | some _ =>
    if !session.pending.contains signal then
      set { session with pending := session.pending ++ [signal] }
  | none => if signal.endsByDefault then throw (.killed signal)

/-- Sends a signal to a shell, and tells whether there is such a shell. The shells
that wait for this one get theirs when they go on. A command in the background is
ended by a signal as long as nobody has asked for its status, and writes no more. -/
def send (signal : Signal) (process : Nat) : Run σ Bool := do
  let session ← get
  if process = session.own then
    deliver signal
    return true
  else if session.ancestors.contains process then
    set { session with mail := session.mail ++ [(process, signal)] }
    return true
  else
    let isMeant (job : BackgroundJob) : Bool := job.process = process && !job.waited
    if signal ≠ 0 && signal.endsByDefault then
      set { session with
        delayed := session.delayed.filter fun text => text.process ≠ process
        jobs := session.jobs.map fun job =>
          if isMeant job then
            { job with
              status := signal.status, killer := some signal, finished := session.clock }
          else job }
    return session.jobs.any isMeant

/-- Takes in the signals that others have sent. -/
def receive : Run σ Unit := do
  let session ← get
  let (own, others) := session.mail.partition fun (process, _) => process = session.own
  set { session with mail := others }
  own.forM fun (_, signal) => deliver signal

/-! ## Time -/

/-- Has texts seen that commands in the background have written, in the order of
time. -/
def release (isDue : Delayed → Bool) : Run σ Unit := do
  let session ← get
  let (due, others) := session.delayed.partition isDue
  set { session with delayed := others }
  (due.mergeSort fun a b => a.time ≤ b.time).forM fun text => writeTo (.buffer text.buffer) text.text

/-- Takes in that commands in the background have ended. -/
def noticeEnds : Run σ Unit := do
  let session ← get
  let isNew (job : BackgroundJob) : Bool := !job.noticed && job.finished ≤ session.clock
  if session.jobs.any isNew then
    set { session with
      jobs := session.jobs.map fun job => if isNew job then { job with noticed := true } else job }
    deliver Signal.child

/-- Lets time pass, and what can be seen by then be seen. -/
def waitUntil (time : Nat) : Run σ Unit := do
  modify fun session => { session with clock := max session.clock time }
  let clock := (← get).clock
  release fun text => text.time ≤ clock
  noticeEnds

end Run

end TmuxLayout.Shell
