import TmuxLayout.Shell.Builtins.Control
import TmuxLayout.Shell.Builtins.Directories
import TmuxLayout.Shell.Builtins.Input
import TmuxLayout.Shell.Builtins.Limits
import TmuxLayout.Shell.Builtins.Names
import TmuxLayout.Shell.Builtins.Output
import TmuxLayout.Shell.Builtins.Parameters
import TmuxLayout.Shell.Builtins.Signals

/-!
# Commands that the shell carries out itself

- `isBuiltin`: whether a name is that of such a command.
- `builtin?`: the command with a name, unless it runs commands itself.
-/

namespace TmuxLayout.Shell

variable {σ : Type}

/-- The names of the commands that the shell carries out itself. -/
def builtinNames : List String :=
  [".", ":", "[", "alias", "bg", "break", "cd", "chdir", "command", "continue", "echo", "eval", "exec",
    "exit", "export", "false", "fg", "getopts", "hash", "jobs", "kill", "local", "printf", "pwd",
    "read", "readonly", "return", "set", "shift", "test", "times", "trap", "true", "type", "ulimit",
    "umask", "unalias", "unset", "wait"]

/-- Whether a name is that of a command that the shell carries out itself. -/
def isBuiltin (name : List Char) : Bool :=
  builtinNames.contains (String.ofList name)

/-- The command with a name that the shell carries out itself, unless it runs
commands. -/
def builtin? (programs : Programs σ) (name : List Char) : Option (Builtin σ) :=
  match String.ofList name with
  | ":" | "true" => some Builtin.nothing
  | "false" => some fun _ => return 1
  | "echo" => some Builtin.echo
  | "printf" => some Builtin.printf
  | "test" => some (Builtin.test programs)
  | "[" => some (Builtin.bracket programs)
  | "exit" => some Builtin.exit
  | "return" => some Builtin.leaveFunction
  | "break" => some Builtin.leaveLoop
  | "continue" => some Builtin.nextTurn
  | "kill" => some Builtin.kill
  | "trap" => some Builtin.trap
  | "wait" => some Builtin.wait
  | "jobs" => some Builtin.jobs
  | "fg" | "bg" => some Builtin.resume
  | "export" => some Builtin.exportNames
  | "readonly" => some Builtin.readOnly
  | "local" => some Builtin.makeLocal
  | "unset" => some Builtin.unset
  | "shift" => some Builtin.shift
  | "set" => some Builtin.setAll
  | "getopts" => some Builtin.getopts
  | "read" => some Builtin.read
  | "pwd" => some Builtin.currentDirectory
  | "cd" | "chdir" => some Builtin.changeDirectory
  | "umask" => some Builtin.rights
  | "ulimit" => some Builtin.limits
  | "times" => some Builtin.times
  | "alias" => some Builtin.aliases
  | "unalias" => some Builtin.unalias
  | "type" => some (Builtin.type isBuiltin programs)
  | "command" => some (Builtin.lookUp isBuiltin programs)
  | "hash" => some (Builtin.hash isBuiltin programs)
  | _ => none

end TmuxLayout.Shell
