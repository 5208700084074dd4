import TmuxLayout.Execution

/-!
# Lines up to the first that fails (SPEC_FULL.md §12)

A runner has a state of its own, so its answer to a line may depend on all lines
before. What it was asked, and what it answered, can be said without the way in
which lines are run: the answers to some lines are those that it gives to one
after the other.

- `Succeeded`: a line was started, and its exit code is zero.
- `Runner.after`, `Runner.answers`: the state behind lines, and the answers to them,
  whatever they are.
- `Runner.StopsAtFailure`: lines were run in order up to the first that failed.
- `Runner.stopsAtFailure_execute`: running lines one after the other does that.
- `Runner.result_execute_eq_ok_iff`: it succeeds when every line did that was run.
-/

namespace TmuxLayout

/-- The line was started, and its exit code is zero. -/
def Succeeded (answer : Except RunError CommandOutput) : Prop :=
  ∃ output, answer = .ok output ∧ output.code = some 0

namespace Runner

variable {σ : Type} (runner : Runner σ)

/-- The state behind lines, whatever became of them. -/
def after (state : σ) (lines : List String) : σ :=
  lines.foldl (fun state line => (runner.run state line).2) state

/-- The answers to lines, one after the other. -/
def answers (runner : Runner σ) (state : σ) : List String → List (Except RunError CommandOutput)
  | [] => []
  | line :: lines =>
    (runner.run state line).1 :: runner.answers (runner.run state line).2 lines

/-- Lines were run in order up to the first that failed: those that were run come
first among them, all but the last one succeeded, and when the last one did too,
no line is left. -/
structure StopsAtFailure (state : σ) (lines ran : List String) : Prop where
  begins : ran <+: lines
  succeeded : ∀ answer ∈ (runner.answers state ran).dropLast, Succeeded answer
  complete : (∀ answer ∈ runner.answers state ran, Succeeded answer) → ran = lines

/-! ## One line -/

/-- An attempt at a line that ends with code zero succeeds. -/
theorem attempt_of_succeeded {state : σ} {line : String}
    (h : Succeeded (runner.run state line).1) :
    runner.attempt state line = (.ok (), (runner.run state line).2) := by
  obtain ⟨output, hanswer, hcode⟩ := h
  have hsuccess : output.success = true := decide_eq_true hcode
  rw [attempt]
  split
  · next herror =>
    rw [herror] at hanswer
    cases hanswer
  · next hok =>
    rw [hok] at hanswer
    cases hanswer
    rw [if_pos hsuccess, hok]

/-- An attempt at any other line fails. -/
theorem attempt_of_not_succeeded {state : σ} {line : String}
    (h : ¬ Succeeded (runner.run state line).1) :
    ∃ error, runner.attempt state line = (.error error, (runner.run state line).2) := by
  rw [attempt]
  split
  · next error next herror =>
    rw [herror]
    exact ⟨error, rfl⟩
  · next output next hok =>
    rw [hok] at h ⊢
    have hfail : ¬ output.success = true := fun hsuccess =>
      h ⟨output, rfl, of_decide_eq_true hsuccess⟩
    rw [if_neg hfail]
    exact ⟨_, rfl⟩

/-! ## Lines -/

/-- Behind a line that succeeded the others are run. -/
theorem execute_cons_of_succeeded {state : σ} {line : String}
    (h : Succeeded (runner.run state line).1) (lines : List String) :
    let rest := runner.execute (runner.run state line).2 lines
    runner.execute state (line :: lines) = ⟨line :: rest.ran, rest.state, rest.result⟩ := by
  rw [execute, runner.attempt_of_succeeded h]

/-- Behind a line that failed nothing is run. -/
theorem execute_cons_of_not_succeeded {state : σ} {line : String}
    (h : ¬ Succeeded (runner.run state line).1) (lines : List String) :
    ∃ error, runner.execute state (line :: lines) =
      ⟨[line], (runner.run state line).2, .error error⟩ := by
  obtain ⟨error, herror⟩ := runner.attempt_of_not_succeeded h
  refine ⟨error, ?_⟩
  rw [execute, herror]

/-- The runner is asked the lines that were run, and nothing else. -/
theorem state_execute (state : σ) (lines : List String) :
    (runner.execute state lines).state =
      runner.after state (runner.execute state lines).ran := by
  induction lines generalizing state with
  | nil => rfl
  | cons line lines ih =>
    by_cases hline : Succeeded (runner.run state line).1
    · rw [runner.execute_cons_of_succeeded hline]
      exact ih _
    · obtain ⟨error, hfail⟩ := runner.execute_cons_of_not_succeeded hline lines
      rw [hfail]
      rfl

/-- Lines succeed together when each of them did that was run. -/
theorem result_execute_eq_ok_iff (state : σ) (lines : List String) :
    (runner.execute state lines).result = .ok () ↔
      ∀ answer ∈ runner.answers state (runner.execute state lines).ran, Succeeded answer := by
  induction lines generalizing state with
  | nil => exact ⟨fun _ => nofun, fun _ => rfl⟩
  | cons line lines ih =>
    by_cases hline : Succeeded (runner.run state line).1
    · rw [runner.execute_cons_of_succeeded hline, answers, List.forall_mem_cons]
      exact (ih _).trans (and_iff_right hline).symm
    · obtain ⟨error, hfail⟩ := runner.execute_cons_of_not_succeeded hline lines
      rw [hfail, answers, List.forall_mem_cons]
      exact ⟨nofun, fun hall => absurd hall.1 hline⟩

/-- Running lines one after the other stops at the first that fails. -/
theorem stopsAtFailure_execute (state : σ) (lines : List String) :
    runner.StopsAtFailure state lines (runner.execute state lines).ran := by
  induction lines generalizing state with
  | nil => exact ⟨List.prefix_refl [], nofun, fun _ => rfl⟩
  | cons line lines ih =>
    by_cases hline : Succeeded (runner.run state line).1
    · rw [runner.execute_cons_of_succeeded hline]
      obtain ⟨hbegins, hsucceeded, hcomplete⟩ := ih (runner.run state line).2
      refine ⟨List.cons_prefix_cons.mpr ⟨rfl, hbegins⟩, ?_, ?_⟩
      · intro answer hanswer
        rw [answers] at hanswer
        -- the first answer is the last one only when there is no other
        cases hothers : runner.answers (runner.run state line).2
            (runner.execute (runner.run state line).2 lines).ran with
        | nil =>
          rw [hothers] at hanswer
          cases hanswer
        | cons other others =>
          rw [hothers, List.dropLast_cons_cons] at hanswer
          cases List.mem_cons.mp hanswer with
          | inl heq => exact heq ▸ hline
          | inr hmem => exact hsucceeded answer (hothers ▸ hmem)
      · intro hall
        rw [answers, List.forall_mem_cons] at hall
        rw [hcomplete hall.2]
    · obtain ⟨error, hfail⟩ := runner.execute_cons_of_not_succeeded hline lines
      rw [hfail]
      refine ⟨List.cons_prefix_cons.mpr ⟨rfl, List.nil_prefix⟩, ?_, ?_⟩
      · intro answer hanswer
        rw [answers, answers] at hanswer
        cases hanswer
      · intro hall
        rw [answers, List.forall_mem_cons] at hall
        exact absurd hall.1 hline

/-- A single line is run. -/
theorem ran_execute_singleton (state : σ) (line : String) :
    (runner.execute state [line]).ran = [line] := by
  by_cases hline : Succeeded (runner.run state line).1
  · rw [runner.execute_cons_of_succeeded hline]
    rfl
  · obtain ⟨error, hfail⟩ := runner.execute_cons_of_not_succeeded hline []
    rw [hfail]

/-- One call is a list of one line. -/
theorem executeBatch_of_ne_nil (state : σ) {lines : List String} (h : lines ≠ []) :
    runner.executeBatch state lines = runner.execute state [batchLine lines] := by
  rw [executeBatch, List.isEmpty_eq_false_iff.mpr h, if_neg Bool.false_ne_true]

end Runner

end TmuxLayout
