import TmuxLayout.Shell.Script

/-!
# Signals

A signal is a number from one to sixty-four. Zero stands for the end of a shell
where actions are set, and for a mere question where signals are sent.

- `Signal.name`: the name of a signal, without the `SIG` before it.
- `Signal.ofName?`: the signal with a name or number.
- `Signal.description?`: what a shell tells of a program that was ended by it.
- `Signal.endsByDefault`: whether it ends a program that does not care for it.
-/

namespace TmuxLayout.Shell

/-- The number of a signal. -/
abbrev Signal := Nat

namespace Signal

/-- Stands for the end of a shell. -/
def ended : Signal := 0

/-- Asks a program to end. -/
def terminate : Signal := 15

/-- Ends a program, whatever it wants. -/
def kill : Signal := 9

/-- Tells that a program has ended that the receiver has started. -/
def child : Signal := 17

/-- The numbers of signals are below this one. -/
def bound : Nat := 65

/-- The names from zero on. Three numbers have no name, and of those behind 33
only the first and the last have one of their own. -/
def names : List String :=
  ["EXIT", "HUP", "INT", "QUIT", "ILL", "TRAP", "ABRT", "BUS", "FPE", "KILL", "USR1", "SEGV", "USR2",
    "PIPE", "ALRM", "TERM", "16", "CHLD", "CONT", "STOP", "TSTP", "TTIN", "TTOU", "URG", "XCPU",
    "XFSZ", "VTALRM", "PROF", "WINCH", "IO", "PWR", "SYS", "32", "33", "RTMIN"] ++
    (List.range 15).map (fun i => "RTMIN+" ++ toString (i + 1)) ++
    (List.range 14).map (fun i => "RTMAX-" ++ toString (14 - i)) ++ ["RTMAX"]

/-- The name of a signal. -/
def name (signal : Signal) : String :=
  names.getD signal ""

/-- A name in upper case. -/
def upper (text : List Char) : List Char :=
  text.map Char.toUpper

/-- The signal with a number, or with a name from `least` on in upper or lower
case. -/
def ofName? (least : Signal) (text : List Char) : Option Signal :=
  if !text.isEmpty && text.all Char.isDigit then
    let number := text.foldl (fun n c => n * 10 + (c.toNat - '0'.toNat)) 0
    if number < bound then some number else none
  else
    (names.idxOf? (String.ofList (upper text))).filter (least ≤ ·)

/-- The signals that do nothing to a program that does not care for them: news of
children, and those that stop a program or let it go on. -/
def harmless : List Signal :=
  [17, 18, 19, 20, 21, 22, 23, 28]

/-- Whether a signal ends a program that does not care for it. -/
def endsByDefault (signal : Signal) : Bool :=
  !harmless.contains signal

/-- What is told of a program that a signal has ended. -/
def descriptions : List String :=
  ["", "Hangup", "Interrupt", "Quit", "Illegal instruction", "Trace/breakpoint trap", "Aborted",
    "Bus error", "Floating point exception", "Killed", "User defined signal 1", "Segmentation fault",
    "User defined signal 2", "Broken pipe", "Alarm clock", "Terminated", "Stack fault",
    "Child exited", "Continued", "Stopped (signal)", "Stopped", "Stopped (tty input)",
    "Stopped (tty output)", "Urgent I/O condition", "CPU time limit exceeded",
    "File size limit exceeded", "Virtual timer expired", "Profiling timer expired", "Window changed",
    "I/O possible", "Power failure", "Bad system call", "Unknown signal 32", "Unknown signal 33"]

/-- What a shell tells of a program that it has waited for and that a signal has
ended. It tells nothing of an interruption and of a broken pipe. -/
def description? (signal : Signal) : Option String :=
  if signal = 2 || signal = 13 then none
  else some (descriptions.getD signal ("Real-time signal " ++ toString (signal - 34)))

/-- The exit status that stands for the end by a signal. -/
def status (signal : Signal) : Nat :=
  128 + signal

end Signal

end TmuxLayout.Shell
