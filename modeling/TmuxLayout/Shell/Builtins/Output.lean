import TmuxLayout.Shell.Builtins.Basic
import TmuxLayout.Shell.Formatting
import TmuxLayout.Shell.Lookup

/-!
# Output and conditions

- `Builtin.echo`, `Builtin.printf`: write their arguments.
- `Builtin.test`, `Builtin.bracket`: tell whether a condition holds.
-/

namespace TmuxLayout.Shell.Builtin

variable {σ : Type}

/-- Writes the arguments, with escapes carried out, and ends the line unless the
first argument says otherwise. -/
def echo : Builtin σ := fun arguments => do
  let (endsLine, arguments) := match arguments with
    | ['-', 'n'] :: arguments => (false, arguments)
    | arguments => (true, arguments)
  let (text, stops) := unescape ([' '].intercalate arguments)
  put (if endsLine && !stops then text ++ ['\n'] else text)

/-- Writes the arguments in a format. -/
def printf : Builtin σ := fun arguments => do
  match ← plainArguments arguments with
  | [] => Run.fail (ofText "usage: printf format [arg ...]")
  | format :: arguments =>
    let done := formatAll format (arguments.length + 1) (.start arguments)
    done.complaints.forM Run.complain
    let status ← put done.output
    if let some fault := done.fault then Run.fail fault
    return max status (statusOf done.complaints.isEmpty)

/-- Tells whether a condition holds. -/
def test (programs : Programs σ) : Builtin σ := fun arguments => do
  match Condition.evaluate (Lookup.surroundings programs (← get)) arguments with
  | .ok holds => return statusOf holds
  | .error fault => Run.fail fault.message

/-- The same with a closing bracket as last argument. -/
def bracket (programs : Programs σ) : Builtin σ := fun arguments =>
  if arguments.getLast? = some [']'] then test programs arguments.dropLast
  else Run.fail (ofText "missing ]")

end TmuxLayout.Shell.Builtin
