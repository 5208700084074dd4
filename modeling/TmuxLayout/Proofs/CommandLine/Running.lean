import Mathlib.Data.List.Basic
import TmuxLayout.CommandLine.Run
import TmuxLayout.Proofs.Compile.Commands
import TmuxLayout.Proofs.Execution.Answers

/-!
# What the command line runs (SPEC_FULL.md §7, §14)

Lines are run only on request, and only when there is something to run: the layout
was loaded and compiled. Which lines, in which order and how many of them, is said
by the steps that it compiled to; the exit code tells whether all went well.

- `Options.CompilesTo`: the layout that options ask for is loaded and compiled.
- `Options.execution`: the lines of steps are run, together or one after the other.
- `Options.report_cases`: the three ways in which a report comes about.
- `Options.report_runs_steps`: what is run, and what the exit code says.
-/

namespace TmuxLayout

/-! ## Loading -/

/-- Octets that were made from a text are read as that text. -/
theorem Octets.decode?_toUTF8 (text : String) :
    decode? text.toUTF8.data.toList = some text := by
  have hvalid : text.toByteArray.IsValidUTF8 := text.isValidUTF8
  rw [decode?]
  simp [String.fromUTF8?, String.fromUTF8, hvalid]

/-- A file whose octets were made from a text is read as that text. -/
theorem readText?_toUTF8 {files : Files} {path text : String}
    (h : files.read path = .ok text.toUTF8.data.toList) : readText? files path = .ok text := by
  rw [readText?, h]
  dsimp only
  rw [Octets.decode?_toUTF8]

/-- The layout in a file is that of the document in its text. -/
theorem Layout.load_of_read {files : Files} {path text : String} {format : Format}
    {document : Document} (hformat : Format.ofPath path = .ok format)
    (htext : readText? files path = .ok text)
    (hdocument : Document.read text format = .ok document) :
    load files path = (ofDocument document).mapError .invalidLayout := by
  rw [load, hformat]
  show (readText? files path).bind (read · format) = _
  rw [htext]
  show read text format = _
  rw [read, hdocument]
  rfl

/-! ## Steps to run -/

namespace Options

variable {σ : Type} (options : Options) (files : Files) (environment : Environment)
  (runner : Runner σ) (state : σ)

/-- The layout that options ask for is loaded, and compiles to steps. -/
def CompilesTo (steps : List Step) : Prop :=
  ∃ layout source, options.source files environment = .ok (layout, source) ∧
    layout.compile options.directory options.window = .ok steps

/-- The lines of steps are run, together or one after the other. -/
def execution (steps : List Step) : Execution σ :=
  if options.batch then runner.executeBatch state (steps.map Step.text)
  else runner.execute state (steps.map Step.text)

section

variable {options files environment} {steps : List Step}
  (hsteps : options.CompilesTo files environment steps)

include hsteps

/-- There is always something to run: the first step makes the window. -/
theorem lines_ne_nil : steps.map Step.text ≠ [] := by
  obtain ⟨layout, source, -, hcompile⟩ := hsteps
  rw [Layout.eq_commands_of_compile hcompile]
  exact List.cons_ne_nil _ _

/-! ## Three ways -/

/-- Steps that are only printed are not run. -/
theorem report_of_not_execute (hexecute : options.execute = false) :
    let report := options.report files environment runner state
    report.ran = [] ∧ report.state = state ∧ report.exitCode = 0 := by
  obtain ⟨layout, source, hsource, hcompile⟩ := hsteps
  rw [report, fullReport, hsource]
  dsimp only
  rw [hcompile]
  dsimp only
  rw [hexecute]
  exact ⟨rfl, rfl, rfl⟩

/-- Steps that are to be run are run; the exit code is the result. -/
theorem report_of_execute (hexecute : options.execute = true) :
    let report := options.report files environment runner state
    let execution := options.execution runner state steps
    report.ran = execution.ran ∧ report.state = execution.state ∧
      ((execution.result = .ok () ∧ report.exitCode = 0) ∨
        (execution.result ≠ .ok () ∧ report.exitCode = 1)) := by
  obtain ⟨layout, source, hsource, hcompile⟩ := hsteps
  rw [report, fullReport, hsource]
  dsimp only
  rw [hcompile]
  dsimp only
  rw [if_pos hexecute, executeReport, execution]
  dsimp only
  split
  · next hok => exact ⟨rfl, rfl, .inl ⟨hok, rfl⟩⟩
  · next error herror => exact ⟨rfl, rfl, .inr ⟨by rw [herror]; exact nofun, rfl⟩⟩

end

/-- Without a compiled layout nothing is run and nothing is put out. -/
theorem report_of_not_compiles (h : ∀ steps, ¬ options.CompilesTo files environment steps) :
    let report := options.report files environment runner state
    report.ran = [] ∧ report.state = state ∧ report.exitCode = 1 ∧ report.output = "" := by
  rw [report, fullReport]
  cases hsource : options.source files environment with
  | error error => exact ⟨rfl, rfl, rfl, rfl⟩
  | ok found =>
    obtain ⟨layout, source⟩ := found
    dsimp only
    cases hcompile : layout.compile options.directory options.window with
    | error fault => exact ⟨rfl, rfl, rfl, rfl⟩
    | ok steps => exact absurd ⟨layout, source, hsource, hcompile⟩ (h steps)

/-- There is no compiled layout, or its steps are only printed, or they are run. -/
theorem report_cases :
    let report := options.report files environment runner state
    (∀ steps, ¬ options.CompilesTo files environment steps) ∧
        (report.ran = [] ∧ report.state = state ∧ report.exitCode = 1 ∧ report.output = "") ∨
    ∃ steps, options.CompilesTo files environment steps ∧
      (options.execute = false ∧
          (report.ran = [] ∧ report.state = state ∧ report.exitCode = 0) ∨
        options.execute = true ∧
          let execution := options.execution runner state steps
          (report.ran = execution.ran ∧ report.state = execution.state ∧
            ((execution.result = .ok () ∧ report.exitCode = 0) ∨
              (execution.result ≠ .ok () ∧ report.exitCode = 1)))) := by
  by_cases hcompiles : ∃ steps, options.CompilesTo files environment steps
  · obtain ⟨steps, hsteps⟩ := hcompiles
    refine .inr ⟨steps, hsteps, ?_⟩
    cases hexecute : options.execute with
    | false => exact .inl ⟨rfl, report_of_not_execute runner state hsteps hexecute⟩
    | true => exact .inr ⟨rfl, report_of_execute runner state hsteps hexecute⟩
  · have hnone := not_exists.mp hcompiles
    exact .inl ⟨hnone, report_of_not_compiles options files environment runner state hnone⟩

/-! ## Runs -/

/-- The runner is asked what is run. -/
theorem state_execution {steps : List Step} (h : steps.map Step.text ≠ []) :
    (options.execution runner state steps).state =
      runner.after state (options.execution runner state steps).ran := by
  rw [execution]
  split
  · rw [runner.executeBatch_of_ne_nil state h]
    exact runner.state_execute state _
  · exact runner.state_execute state _

/-- A run succeeds when every line does that is run. -/
theorem result_execution_eq_ok_iff {steps : List Step} (h : steps.map Step.text ≠ []) :
    (options.execution runner state steps).result = .ok () ↔
      ∀ answer ∈ runner.answers state (options.execution runner state steps).ran,
        Succeeded answer := by
  rw [execution]
  split
  · rw [runner.executeBatch_of_ne_nil state h]
    exact runner.result_execute_eq_ok_iff state _
  · exact runner.result_execute_eq_ok_iff state _

/-- The lines of steps are run in order up to the first that fails, or in one
call. -/
theorem ran_execution {steps : List Step} (h : steps.map Step.text ≠ []) :
    let ran := (options.execution runner state steps).ran
    (options.batch = false → runner.StopsAtFailure state (steps.map Step.text) ran) ∧
      (options.batch = true → ran = [batchLine (steps.map Step.text)]) := by
  rw [execution]
  cases options.batch with
  | false => exact ⟨fun _ => runner.stopsAtFailure_execute state _, nofun⟩
  | true =>
    rw [if_pos rfl, runner.executeBatch_of_ne_nil state h]
    exact ⟨nofun, fun _ => runner.ran_execute_singleton state _⟩

/-! ## Reports -/

theorem ran_report_eq_nil
    (h : options.execute = false ∨ ∀ steps, ¬ options.CompilesTo files environment steps) :
    (options.report files environment runner state).ran = [] := by
  rcases options.report_cases files environment runner state with
    ⟨-, hran, -⟩ | ⟨steps, hsteps, ⟨-, hran, -⟩ | ⟨hexecute, -⟩⟩
  · exact hran
  · exact hran
  · rcases h with hfalse | hnone
    · rw [hexecute] at hfalse
      cases hfalse
    · exact absurd hsteps (hnone steps)

theorem state_report :
    let report := options.report files environment runner state
    report.state = runner.after state report.ran := by
  intro report
  rcases options.report_cases files environment runner state with
    ⟨-, hran, hstate, -⟩ | ⟨steps, hsteps, ⟨-, hran, hstate, -⟩ | ⟨-, hran, hstate, -⟩⟩
  · exact hstate.trans (congrArg (runner.after state) hran).symm
  · exact hstate.trans (congrArg (runner.after state) hran).symm
  · rw [hran]
    exact hstate.trans (options.state_execution runner state (lines_ne_nil hsteps))

theorem ran_report {steps : List Step} (hsteps : options.CompilesTo files environment steps)
    (hexecute : options.execute = true) :
    let ran := (options.report files environment runner state).ran
    (options.batch = false → runner.StopsAtFailure state (steps.map Step.text) ran) ∧
      (options.batch = true → ran = [batchLine (steps.map Step.text)]) := by
  intro ran
  obtain ⟨hran, -⟩ := report_of_execute runner state hsteps hexecute
  have hrun : ran = (options.execution runner state steps).ran := hran
  rw [hrun]
  exact options.ran_execution runner state (lines_ne_nil hsteps)

/-- The exit code is zero when all went well, and one otherwise. -/
theorem exitCode_report :
    let report := options.report files environment runner state
    (report.exitCode = 0 ↔ (∃ steps, options.CompilesTo files environment steps) ∧
      ∀ answer ∈ runner.answers state report.ran, Succeeded answer) ∧
    (report.exitCode = 0 ∨ report.exitCode = 1) := by
  intro report
  rcases options.report_cases files environment runner state with
    ⟨hnone, -, -, hone, -⟩ |
      ⟨steps, hsteps, ⟨-, hran, -, hzero⟩ | ⟨-, hran, -, ⟨hok, hzero⟩ | ⟨hfailed, hone⟩⟩⟩
  · refine ⟨⟨fun hzero => ?_, fun ⟨⟨steps, hsteps⟩, _⟩ => absurd hsteps (hnone steps)⟩, .inr hone⟩
    cases hone.symm.trans hzero
  -- what is only printed gets no answer, so all answers are good
  · refine ⟨⟨fun _ => ⟨⟨steps, hsteps⟩, ?_⟩, fun _ => hzero⟩, .inl hzero⟩
    rw [hran]
    exact nofun
  · have hall := (options.result_execution_eq_ok_iff runner state (lines_ne_nil hsteps)).mp hok
    rw [← hran] at hall
    exact ⟨⟨fun _ => ⟨⟨steps, hsteps⟩, hall⟩, fun _ => hzero⟩, .inl hzero⟩
  · have hsome := mt (options.result_execution_eq_ok_iff runner state (lines_ne_nil hsteps)).mpr
      hfailed
    rw [← hran] at hsome
    refine ⟨⟨fun hzero => ?_, fun hall => absurd hall.2 hsome⟩, .inr hone⟩
    cases hone.symm.trans hzero

/-- **Nothing else is run.** Whatever the options, the files, the environment and
the runner: no line is run unless that is asked for and the layout is loaded and
compiles. Then the lines of its steps are run in order up to the first that fails,
or all of them in one call. The runner is asked these lines and no other. The exit
code is zero when loading, compiling and every line succeeded, and one otherwise.
Without a compiled layout nothing is put out. -/
theorem report_runs_steps :
    let report := options.report files environment runner state
    let compiles := options.CompilesTo files environment
    ((options.execute = false ∨ ∀ steps, ¬ compiles steps) → report.ran = []) ∧
    report.state = runner.after state report.ran ∧
    (∀ steps, compiles steps → options.execute = true →
      (options.batch = false →
        runner.StopsAtFailure state (steps.map Step.text) report.ran) ∧
      (options.batch = true → report.ran = [batchLine (steps.map Step.text)])) ∧
    (report.exitCode = 0 ↔
      (∃ steps, compiles steps) ∧
        ∀ answer ∈ runner.answers state report.ran, Succeeded answer) ∧
    (report.exitCode = 0 ∨ report.exitCode = 1) ∧
    ((∀ steps, ¬ compiles steps) → report.output = "") := by
  obtain ⟨hcode, hcodes⟩ := options.exitCode_report files environment runner state
  exact ⟨options.ran_report_eq_nil files environment runner state,
    options.state_report files environment runner state,
    fun steps => options.ran_report files environment runner state, hcode, hcodes,
    fun hnone => (options.report_of_not_compiles files environment runner state hnone).2.2.2⟩

/-! ## A run that fails -/

theorem source_of_layoutFile {options : Options} {path : String}
    (h : options.layoutFile = some path) (files : Files) (environment : Environment) :
    options.source files environment =
      ((Layout.load files path).map (·, Source.file path)).mapError (.file path) := by
  rw [source, h]
  rfl

/-- A layout with one pane, as a text. -/
def singleText : String :=
  "\x7b\"layout\":\x7b\"type\":\"vertical\",\"panes\":[\x7b\x7d]\x7d\x7d"

/-- Files that all hold that text. -/
def singleFiles : Files := ⟨fun _ => .ok singleText.toUTF8.data.toList, fun _ => true⟩

/-- A layout with one pane. -/
def singlePane : Layout := ⟨none, .plain .vertical, [.pane .blank]⟩

theorem load_singleFiles : Layout.load singleFiles "dev.json" = .ok singlePane := by
  have hformat : Format.ofPath "dev.json" = .ok .json := by cbv
  have hdocument : Document.read singleText .json = .ok (.mapping [(.string "layout",
      .mapping [(.string "type", .string "vertical"),
        (.string "panes", .sequence [.mapping []])])]) := by
    cbv
  rw [Layout.load_of_read hformat (readText?_toUTF8 rfl) hdocument]
  rfl

/-- A runner whose lines all fail. -/
def failing : Runner Nat where
  run count _ := (.ok ⟨some 1, "", "no server running"⟩, count + 1)

/-- The window of a layout with one pane cannot be made, so its pane is not
selected. -/
theorem report_runs_steps_failing :
    let options : Options :=
      ⟨some "dev.json", none, none, none, false, true, false, false, false, false⟩
    let report := options.report singleFiles (fun _ => none) failing 0
    ∃ steps, options.CompilesTo singleFiles (fun _ => none) steps ∧ steps.length = 2 ∧
      failing.StopsAtFailure 0 (steps.map Step.text) report.ran ∧
      report.ran = (steps.take 1).map Step.text ∧ report.exitCode = 1 := by
  intro options report
  have hsource : options.source singleFiles (fun _ => none) =
      .ok (singlePane, .file "dev.json") := by
    rw [source_of_layoutFile rfl, load_singleFiles]
    rfl
  have hsteps : options.CompilesTo singleFiles (fun _ => none) _ := ⟨_, _, hsource, rfl⟩
  obtain ⟨-, -, hruns, -⟩ := options.report_runs_steps singleFiles (fun _ => none) failing 0
  obtain ⟨hran, -, ⟨hok, -⟩ | ⟨-, hcode⟩⟩ := report_of_execute failing 0 hsteps rfl
  · cases hok
  · exact ⟨_, hsteps, rfl, (hruns _ hsteps rfl).1 rfl, hran, hcode⟩

end Options

end TmuxLayout
