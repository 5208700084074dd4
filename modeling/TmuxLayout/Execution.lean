import TmuxLayout.Batch
import TmuxLayout.Text.Space

/-!
# Running commands (SPEC_FULL.md §12, §13)

A runner is whatever runs a line in a shell: it has a state of its own, so an
answer may depend on all that was run before.

- `CommandOutput`, `RunError`: what a line gives, and why one failed.
- `Runner`: runs one line (`CommandRunner`).
- `Execution`: the lines that were run, the state left, and the result.
- `execute`: runs lines in order up to the first that fails (`execute_commands`).
- `executeBatch`: runs lines as one call of tmux (`execute_batch`).
-/

namespace TmuxLayout

/-- What a line gave. There is no code when a signal ended it. -/
structure CommandOutput where
  code : Option Int
  stdout : String
  stderr : String
deriving Repr, DecidableEq, Inhabited

/-- Whether a line succeeded. -/
def CommandOutput.success (output : CommandOutput) : Bool :=
  output.code = some 0

/-- Why a line failed. -/
inductive RunError where
  | spawnFailed (command cause : String)
  | commandFailed (command : String) (code : Option Int) (stderr : String)
deriving Repr, DecidableEq

namespace RunError

/-- The fault in short. -/
def code : RunError → String
  | spawnFailed _ _ => "EXEC_SPAWN_FAILED"
  | commandFailed _ _ _ => "EXEC_COMMAND_FAILED"

/-- The exit code in words. -/
def exitCode : Option Int → String
  | some code => toString code
  | none => "unknown (terminated by signal)"

/-- The fault in words. What a line wrote as errors comes on further lines. -/
def message : RunError → String
  | spawnFailed command cause => "Failed to spawn shell for '" ++ command ++ "': " ++ cause
  | commandFailed command code stderr =>
    let detail := stderr.trimSpace
    "Command failed with exit code " ++ exitCode code ++ ": " ++ command ++
      (if detail.isEmpty then "" else "\n" ++ detail)

end RunError

/-- Runs one line, from a state to a state. -/
structure Runner (σ : Type) where
  run : σ → String → Except RunError CommandOutput × σ

/-- The lines that were run, the state that is left, and the result. -/
structure Execution (σ : Type) where
  ran : List String
  state : σ
  result : Except RunError Unit

namespace Runner

variable {σ : Type}

/-- Runs one line; it fails unless its exit code is zero. -/
def attempt (runner : Runner σ) (state : σ) (line : String) : Except RunError Unit × σ :=
  match runner.run state line with
  | (.error error, state) => (.error error, state)
  | (.ok output, state) =>
    if output.success then (.ok (), state)
    else (.error (.commandFailed line output.code output.stderr), state)

/-- Runs lines in order up to the first that fails. -/
def execute (runner : Runner σ) (state : σ) : List String → Execution σ
  | [] => ⟨[], state, .ok ()⟩
  | line :: lines =>
    match runner.attempt state line with
    | (.error error, state) => ⟨[line], state, .error error⟩
    | (.ok (), state) =>
      let rest := runner.execute state lines
      ⟨line :: rest.ran, rest.state, rest.result⟩

/-- Runs lines as one call of tmux; no lines are no call. -/
def executeBatch (runner : Runner σ) (state : σ) (lines : List String) : Execution σ :=
  if lines.isEmpty then ⟨[], state, .ok ()⟩ else runner.execute state [batchLine lines]

end Runner

end TmuxLayout
