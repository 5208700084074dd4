import TmuxLayout.Proofs.Execution.Answers

/-!
# What is left of a run that fails

A runner may answer a line in any way and remember what it was asked. Whatever it does,
running lines in order comes down to the first of its answers that is no success: up to
there every line was asked once, and the error is made of that answer and nothing else.

- `FailsWith`: an answer that is no success, and the error that it is told as.
- `Runner.recording`: a runner that keeps the lines it is asked. It shows that the lines
  that were run are those that the runner was asked, and no others.
- `Execution.andThen`: going on from what is left, unless that failed.
- `Runner.execute_of_failsWith`, `Runner.succeeded_or_exists_failsWith`: what a run is
  when a line fails, and that there is no third way.
- `Runner.execute_first_failure`: all of it.
-/

namespace TmuxLayout

/-- The answer to a line is no success, and is told as an error: that of the runner
itself when the line was not started, else one with the line, its exit code, if there is
one, and what it wrote as errors. -/
inductive FailsWith (line : String) : Except RunError CommandOutput → RunError → Prop where
  | notStarted (error : RunError) : FailsWith line (.error error) error
  | exited (output : CommandOutput) : output.code ≠ some 0 →
      FailsWith line (.ok output) (.commandFailed line output.code output.stderr)

theorem succeeded_or_failsWith (line : String) (answer : Except RunError CommandOutput) :
    Succeeded answer ∨ ∃ error, FailsWith line answer error := by
  cases answer with
  | error error => exact .inr ⟨error, .notStarted error⟩
  | ok output =>
    by_cases hcode : output.code = some 0
    · exact .inl ⟨output, rfl, hcode⟩
    · exact .inr ⟨_, .exited output hcode⟩

/-- Goes on from the state that is left, unless something failed. -/
def Execution.andThen {σ : Type} (first : Execution σ) (next : σ → Execution σ) : Execution σ :=
  match first.result with
  | .error _ => first
  | .ok () =>
    let second := next first.state
    ⟨first.ran ++ second.ran, second.state, second.result⟩

namespace Runner

variable {σ : Type} (runner : Runner σ)

/-- The runner, with a list of the lines it is asked. -/
def recording : Runner (σ × List String) where
  run := fun (state, asked) line =>
    ((runner.run state line).1, (runner.run state line).2, asked ++ [line])

/-! ## One line -/

theorem attempt_of_failsWith {state : σ} {line : String} {error : RunError}
    (h : FailsWith line (runner.run state line).1 error) :
    runner.attempt state line = (.error error, (runner.run state line).2) := by
  rw [attempt]
  rcases hrun : runner.run state line with ⟨answer, next⟩
  rw [hrun] at h
  cases h with
  | notStarted => rfl
  | exited output hcode =>
    have hfail : output.success = false := decide_eq_false hcode
    simp [hfail]

theorem attempt_recording (state : σ) (asked : List String) (line : String) :
    runner.recording.attempt (state, asked) line =
      ((runner.attempt state line).1, (runner.attempt state line).2, asked ++ [line]) := by
  rcases succeeded_or_failsWith line (runner.run state line).1 with hok | ⟨error, herror⟩
  · rw [runner.attempt_of_succeeded hok]
    exact runner.recording.attempt_of_succeeded hok
  · rw [runner.attempt_of_failsWith herror]
    exact runner.recording.attempt_of_failsWith herror

/-! ## Lines -/

/-- A runner that keeps what it is asked is asked the lines that are run. -/
theorem execute_recording (state : σ) (asked lines : List String) :
    let run := runner.execute state lines
    runner.recording.execute (state, asked) lines =
      ⟨run.ran, (run.state, asked ++ run.ran), run.result⟩ := by
  induction lines generalizing state asked with
  | nil =>
    intro run
    simp [run, execute]
  | cons line lines ih =>
    intro run
    simp only [run, execute, attempt_recording]
    rcases runner.attempt state line with ⟨_ | _, next⟩
    · rfl
    · simp [ih]

/-- When all lines succeed, all are run. -/
theorem execute_of_succeeded {state : σ} {lines : List String}
    (h : ∀ answer ∈ runner.answers state lines, Succeeded answer) :
    runner.execute state lines = ⟨lines, runner.after state lines, .ok ()⟩ := by
  induction lines generalizing state with
  | nil => rfl
  | cons line lines ih =>
    rw [answers, List.forall_mem_cons] at h
    rw [runner.execute_cons_of_succeeded h.1, ih h.2]
    rfl

/-- When all lines before one succeed and it fails, it is the last one that is run. -/
theorem execute_of_failsWith {state : σ} {before : List String} {line : String}
    {error : RunError} (hbefore : ∀ answer ∈ runner.answers state before, Succeeded answer)
    (h : FailsWith line (runner.run (runner.after state before) line).1 error)
    (behind : List String) :
    runner.execute state (before ++ line :: behind) =
      ⟨before ++ [line], (runner.run (runner.after state before) line).2, .error error⟩ := by
  induction before generalizing state with
  | nil =>
    have hline : runner.attempt state line = (.error error, (runner.run state line).2) :=
      runner.attempt_of_failsWith h
    rw [List.nil_append, execute, hline]
    rfl
  | cons first before ih =>
    rw [answers, List.forall_mem_cons] at hbefore
    rw [List.cons_append, runner.execute_cons_of_succeeded hbefore.1, ih hbefore.2 h]
    rfl

/-- All lines succeed, or one of them is the first that fails. -/
theorem succeeded_or_exists_failsWith (state : σ) (lines : List String) :
    (∀ answer ∈ runner.answers state lines, Succeeded answer) ∨
    ∃ before line behind error, lines = before ++ line :: behind ∧
      (∀ answer ∈ runner.answers state before, Succeeded answer) ∧
      FailsWith line (runner.run (runner.after state before) line).1 error := by
  induction lines generalizing state with
  | nil => exact .inl nofun
  | cons line lines ih =>
    rcases succeeded_or_failsWith line (runner.run state line).1 with hok | ⟨error, herror⟩
    · rcases ih (runner.run state line).2 with hall | ⟨before, last, behind, error, rfl, hbefore, h⟩
      · exact .inl (List.forall_mem_cons.mpr ⟨hok, hall⟩)
      · refine .inr ⟨line :: before, last, behind, error, rfl, ?_, h⟩
        exact List.forall_mem_cons.mpr ⟨hok, hbefore⟩
    · exact .inr ⟨[], line, lines, error, rfl, nofun, herror⟩

/-- Lines that are run behind others are run from where these end. -/
theorem execute_append (state : σ) (lines others : List String) :
    runner.execute state (lines ++ others) =
      (runner.execute state lines).andThen fun next => runner.execute next others := by
  induction lines generalizing state with
  | nil => rfl
  | cons line lines ih =>
    rw [List.cons_append, execute, execute]
    rcases runner.attempt state line with ⟨_ | _, next⟩
    · rfl
    · dsimp only
      rw [ih]
      rcases runner.execute next lines with ⟨ran, last, _ | _⟩
      · rfl
      · rfl

/-- Lines succeed together when all of them are run and each does. -/
theorem result_execute_eq_ok_iff_forall (state : σ) (lines : List String) :
    (runner.execute state lines).result = .ok () ↔
      (runner.execute state lines).ran = lines ∧
        ∀ answer ∈ runner.answers state lines, Succeeded answer := by
  constructor
  · intro hok
    rcases runner.succeeded_or_exists_failsWith state lines with
      hall | ⟨before, line, behind, error, rfl, hbefore, h⟩
    · rw [runner.execute_of_succeeded hall]
      exact ⟨rfl, hall⟩
    · rw [runner.execute_of_failsWith hbefore h] at hok
      cases hok
  · rintro ⟨-, hall⟩
    rw [runner.execute_of_succeeded hall]

/-- Lines fail together when one of them is the first that does, and with its error. -/
theorem result_execute_eq_error_iff (state : σ) (lines : List String) (error : RunError) :
    (runner.execute state lines).result = .error error ↔
      ∃ before line behind, lines = before ++ line :: behind ∧
        (runner.execute state lines).ran = before ++ [line] ∧
        (∀ answer ∈ runner.answers state before, Succeeded answer) ∧
        FailsWith line (runner.run (runner.after state before) line).1 error := by
  constructor
  · intro herror
    rcases runner.succeeded_or_exists_failsWith state lines with
      hall | ⟨before, line, behind, other, rfl, hbefore, h⟩
    · rw [runner.execute_of_succeeded hall] at herror
      cases herror
    · have hrun := runner.execute_of_failsWith hbefore h behind
      rw [hrun] at herror
      cases herror
      exact ⟨before, line, behind, rfl, by rw [hrun], hbefore, h⟩
  · rintro ⟨before, line, behind, rfl, -, hbefore, h⟩
    rw [runner.execute_of_failsWith hbefore h]

/-- **A run stops at the first failure, and tells it as it is.** Whatever a runner answers,
and whatever it remembers, it is asked the first lines in order, each once. The run
succeeds when all lines were asked and each succeeded. Else the last line that was asked
is the first that did not succeed, and the error is what its answer is told as. Lines that
are run together with others behind them are run as if alone; the others are run from what
is left, if nothing failed. -/
theorem execute_first_failure (runner : Runner σ) (state : σ) (lines : List String) :
    let run := runner.execute state lines
    runner.recording.execute (state, []) lines = ⟨run.ran, (run.state, run.ran), run.result⟩ ∧
    run.ran <+: lines ∧
    (run.result = .ok () ↔
      run.ran = lines ∧ ∀ answer ∈ runner.answers state lines, Succeeded answer) ∧
    (∀ error, run.result = .error error ↔
      ∃ before line behind, lines = before ++ line :: behind ∧ run.ran = before ++ [line] ∧
        (∀ answer ∈ runner.answers state before, Succeeded answer) ∧
        FailsWith line (runner.run (runner.after state before) line).1 error) ∧
    ∀ others, runner.execute state (lines ++ others) =
      run.andThen fun next => runner.execute next others := by
  intro run
  have hasked : runner.recording.execute (state, []) lines =
      ⟨run.ran, (run.state, run.ran), run.result⟩ :=
    runner.execute_recording state [] lines
  exact ⟨hasked, (runner.stopsAtFailure_execute state lines).begins,
    runner.result_execute_eq_ok_iff_forall state lines,
    runner.result_execute_eq_error_iff state lines, runner.execute_append state lines⟩

end Runner

end TmuxLayout
