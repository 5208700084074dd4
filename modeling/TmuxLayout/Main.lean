import TmuxLayout.CommandLine.Run
import TmuxLayout.Shell.Runner

/-!
# The program (SPEC_FULL.md §14)

The outer layer: it looks up the variables and the file that a command line is
about, and writes what `reportOn` answers. Lines are run by the shell of this
library, in an empty file tree and without programs from outside it.

- `variableNames`: the variables that the program looks at.
- `readFile`: what a file holds, or why it cannot be read.
- `respond`: the answer to a command line; `main` gives it.
-/

namespace TmuxLayout

/-- The variables that the program looks at. -/
def variableNames : List String :=
  ["HOME", "PATH", "XDG_CONFIG_HOME", "RUST_LOG", "NO_COLOR", "FORCE_COLOR", "CLICOLOR",
    "CLICOLOR_FORCE", "COLORTERM", "TERM", "TERM_PROGRAM", "CI", "NODE", "IGNORE_IS_TERMINAL"] ++
    Color.integrationVariables

/-- The file that a command line is about, if it is about one. -/
def wantedFile? (words : List String) (environment : Environment) : Option String :=
  match Request.ofWords words with
  | .run options => options.path? environment
  | _ => none

/-- What a file holds, or why it cannot be read. -/
def readFile (path : String) : IO (Except ReadFault Octets) := do
  match ← (IO.FS.readBinFile path).toBaseIO with
  | .ok octets => return .ok octets.toList
  | .error (.noFileOrDirectory ..) => return .error .notFound
  | .error fault => return .error (.failed (toString fault))

/-- The variables that are set, with their values. -/
def readVariables : IO (List (String × String)) :=
  variableNames.filterMapM fun name => do
    return (← IO.getEnv name).map (name, ·)

/-- Files of which one was read. -/
def filesOf (path? : Option String) (content : Except ReadFault Octets) : Files where
  read path := if path? = some path then content else .error .notFound
  isPresent path := path? = some path && content matches .ok _ | .error (.failed _)

/-- Reads what a command line is about, writes the report on it, and gives the
exit code. -/
def respond (words : List String) : IO UInt32 := do
  let known ← readVariables
  let environment (name : String) : Option String := known.lookup name
  let path? := wantedFile? words environment
  let content ← path?.elim (pure (.error .notFound)) readFile
  let outside : Shell.Outside Unit := ⟨known, .empty, [], fun _ => none⟩
  let report := reportOn words (filesOf path? content) environment
    (Shell.runner outside defaultShell) ()
  (← IO.getStdout).putStr report.output
  let errors ← IO.getStderr
  report.events.forM fun event => errors.putStrLn event.line
  errors.putStr report.errorOutput
  return report.exitCode.toUInt32

end TmuxLayout

/-- The program. -/
def main (words : List String) : IO UInt32 :=
  TmuxLayout.respond words
