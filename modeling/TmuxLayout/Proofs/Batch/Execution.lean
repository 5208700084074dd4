import TmuxLayout.Proofs.Batch.OneCall
import TmuxLayout.Proofs.CommandLine.Compiling
import TmuxLayout.Proofs.Compile.Panes

/-!
# One call and many (SPEC_FULL.md §13)

A layout is built by many calls of tmux, or by one with all commands in it. Both
give the same panes. Focus differs: among many calls, the pane with the title is
looked for in the new window; in one call it is looked for in the window that was
current before there was a new one.

- `window_of_execute`, `window_of_executeBatch`: what a runner leaves behind.
- `Layout.executeBatch_of_execute`: both ways of building compared.
- `tmuxRunner`: a runner that is a shell and tmux and nothing else.
-/

namespace TmuxLayout

/-! ## Runners -/

section

variable {σ : Type} {runner : Runner σ} {window : σ → Window Terminal}
  (hreaches : ReachesTmux runner window)

include hreaches

/-- A line that succeeds has done what it says. -/
theorem window_of_attempt {state after : σ} {line : String}
    (h : runner.attempt state line = (.ok (), after))
    {result : Except TmuxFault (Window Terminal)}
    (hobey : obey (window state) line = result.mapError .fault) : result = .ok (window after) := by
  rw [Runner.attempt] at h
  cases hrun : runner.run state line with
  | mk answer next =>
    rw [hrun] at h
    cases answer with
    | error error => cases h
    | ok output =>
      dsimp only at h
      split at h
      case isFalse => cases h
      case isTrue hsuccess =>
        cases h
        have hline := hreaches hrun hsuccess
        rw [hobey] at hline
        cases result with
        | error fault => exact hline.elim
        | ok w => exact congrArg Except.ok hline.symm

/-- Calls that all succeed have done what their steps do. -/
theorem window_of_execute {steps : List Step} (hread : ∀ step ∈ steps, step.command.IsReadable)
    {state : σ} (hok : (runner.execute state (steps.map Step.text)).result = .ok ()) :
    runSteps (window state) steps =
      .ok (window (runner.execute state (steps.map Step.text)).state) := by
  induction steps generalizing state with
  | nil => rfl
  | cons step steps ih =>
    obtain ⟨hstep, hsteps⟩ := List.forall_mem_cons.mp hread
    rw [List.map_cons, Runner.execute] at hok ⊢
    cases hattempt : runner.attempt state step.text with
    | mk answer next =>
      rw [hattempt] at hok
      cases answer with
      | error error => cases hok
      | ok _ =>
        have hrun := window_of_attempt hreaches hattempt
          (TmuxCommand.obey_text hstep (window state))
        exact (runSteps_cons steps hrun).trans (ih hsteps hok)

/-- One call that succeeds has done what its line says. -/
theorem window_of_executeBatch {lines : List String} (hne : lines ≠ []) {state : σ}
    (hok : (runner.executeBatch state lines).result = .ok ())
    {result : Except TmuxFault (Window Terminal)}
    (hobey : obey (window state) (batchLine lines) = result.mapError .fault) :
    result = .ok (window (runner.executeBatch state lines).state) := by
  have hempty : lines.isEmpty = false := List.isEmpty_eq_false_iff.mpr hne
  rw [Runner.executeBatch, hempty, if_neg Bool.false_ne_true, Runner.execute] at hok ⊢
  cases hattempt : runner.attempt state (batchLine lines) with
  | mk answer next =>
    rw [hattempt] at hok
    cases answer with
    | error error => cases hok
    | ok _ => exact window_of_attempt hreaches hattempt hobey

end

/-! ## A runner -/

/-- A runner that is a shell and tmux and nothing else. -/
def tmuxRunner : Runner (Window Terminal) where
  run w line :=
    match obey w line with
    | .ok v => (.ok ⟨some 0, "", ""⟩, v)
    | .error _ => (.ok ⟨some 1, "", ""⟩, w)

theorem run_tmuxRunner {w v : Window Terminal} {line : String} (h : obey w line = .ok v) :
    tmuxRunner.run w line = (.ok ⟨some 0, "", ""⟩, v) := by
  show (match obey w line with | .ok v => _ | .error _ => _) = _
  rw [h]

theorem attempt_tmuxRunner {w v : Window Terminal} {line : String} (h : obey w line = .ok v) :
    tmuxRunner.attempt w line = (.ok (), v) := by
  rw [Runner.attempt, run_tmuxRunner h]
  rfl

theorem reachesTmux_tmuxRunner : ReachesTmux tmuxRunner fun w => w := by
  intro w line output after hrun hsuccess
  cases hobey : obey w line with
  | ok v =>
    rw [run_tmuxRunner hobey] at hrun
    cases hrun
    rfl
  | error refusal =>
    have hfail : tmuxRunner.run w line = (.ok ⟨some 1, "", ""⟩, w) := by
      show (match obey w line with | .ok v => _ | .error _ => _) = _
      rw [hobey]
    rw [hfail] at hrun
    cases hrun
    cases hsuccess

/-- Steps that can be read and fail nowhere succeed one by one. -/
theorem execute_tmuxRunner {steps : List Step} (hread : ∀ step ∈ steps, step.command.IsReadable)
    {w v : Window Terminal} (h : runSteps w steps = .ok v) :
    (tmuxRunner.execute w (steps.map Step.text)).result = .ok () ∧
      (tmuxRunner.execute w (steps.map Step.text)).state = v := by
  induction steps generalizing w with
  | nil =>
    cases h
    exact ⟨rfl, rfl⟩
  | cons step steps ih =>
    obtain ⟨hstep, hsteps⟩ := List.forall_mem_cons.mp hread
    obtain ⟨u, hrun, hrest⟩ := exists_of_runSteps_cons h
    have hobey : obey w step.text = .ok u := by
      rw [Step.text, TmuxCommand.obey_text hstep, hrun]
      rfl
    rw [List.map_cons, Runner.execute, attempt_tmuxRunner hobey]
    exact ih hsteps hrest

/-- One call that can be read and fails nowhere succeeds. -/
theorem executeBatch_tmuxRunner {lines : List String} (hne : lines ≠ []) {w v : Window Terminal}
    (h : obey w (batchLine lines) = .ok v) :
    (tmuxRunner.executeBatch w lines).result = .ok () ∧
      (tmuxRunner.executeBatch w lines).state = v := by
  have hempty : lines.isEmpty = false := List.isEmpty_eq_false_iff.mpr hne
  rw [Runner.executeBatch, hempty, if_neg Bool.false_ne_true, Runner.execute,
    attempt_tmuxRunner h]
  exact ⟨rfl, rfl⟩

/-! ## Layouts -/

namespace Layout

/-- The title for focus is that of a pane once the panes are built. -/
theorem exists_paneTitled?_of_buildCommands {layout : Layout} {directory name : Option String}
    {start built : Window Terminal}
    (hbuilt : runSteps start (layout.buildCommands directory name) = .ok built) {title : String}
    (htitle : layout.root.focusTitle? = some title) :
    ∃ index, built.paneTitled? title = some index := by
  obtain ⟨leaf, hleaf, hname⟩ := Node.exists_of_focusTitle? layout.root htitle
  obtain ⟨w, hw, hfilled⟩ := runSteps_buildCommands layout directory name start
  cases hbuilt.symm.trans hw
  have hpane : leaf.terminal ∈ built.panes := by
    rw [hfilled]
    exact List.mem_append_left _ (List.mem_map_of_mem hleaf)
  exact Window.exists_paneTitled? hpane (leaf.title_terminal.trans hname)

/-- Focus that is asked for in the window it is for makes the pane with the title
active. -/
theorem paneTitled?_of_focusAsked {built w : Window Terminal} {title : String} {index : Nat}
    (hindex : built.paneTitled? title = some index)
    (h : focusAsked built built (some title) = .ok w) :
    w.paneTitled? title = some w.activeIndex := by
  rw [focusAsked, hindex] at h
  rw [activeIndex_of_run_selectPane h, ← hindex, Window.paneTitled?, panes_of_run_selectPane h]
  rfl

/-- Both ways of running the commands of a layout, in a shell and tmux alone. -/
theorem executions_tmuxRunner {layout : Layout} {directory name : Option String}
    (hplain : layout.IsPlain) (hdirectory : ∀ text ∈ directory, Line.IsQuotable text)
    (hname : ∀ text ∈ name, Line.IsQuotable text) {start built v u : Window Terminal}
    (hbuilt : runSteps start (layout.buildCommands directory name) = .ok built)
    (hmany : focusAsked built built layout.root.focusTitle? = .ok v)
    (hone : focusAsked start built layout.root.focusTitle? = .ok u) :
    let lines := (layout.commands directory name).map Step.text
    (tmuxRunner.execute start lines).result = .ok () ∧
      (tmuxRunner.execute start lines).state = v ∧
      (tmuxRunner.executeBatch start lines).result = .ok () ∧
      (tmuxRunner.executeBatch start lines).state = u := by
  intro lines
  have hrun : runSteps start (layout.commands directory name) = .ok v := by
    rw [commands, runSteps_append _ hbuilt, runSteps_focusCommands_eq, hmany]
  have hobey : obey start (batchLine lines) = .ok u := by
    rw [obey_batchLine hplain hdirectory hname hbuilt, hone]
    rfl
  obtain ⟨hresult, hstate⟩ :=
    execute_tmuxRunner (isReadable_of_mem_commands hplain hdirectory hname) hrun
  exact ⟨hresult, hstate, executeBatch_tmuxRunner (List.cons_ne_nil _ _) hobey⟩

/-- The document of a window with an editor in focus and logs. -/
def editorDocument : Document := .mapping [(.string "layout", .mapping
  [(.string "type", .string "horizontal"),
    (.string "panes", .sequence
      [.mapping [(.string "name", .string "editor"), (.string "command", .string "vi"),
          (.string "focus", .bool true)],
        .mapping [(.string "name", .string "logs")]])])]

/-- A window with an editor in focus and logs. -/
def editorLayout : Layout :=
  ⟨none, .plain .horizontal,
    [.pane ((Pane.named "editor").withCommand "vi").focused, .pane (.named "logs")]⟩

theorem isPlain_editorLayout : editorLayout.IsPlain := by
  have hleaves : ∀ leaf ∈ editorLayout.leaves,
      leaf = ((Pane.named "editor").withCommand "vi").focused ∨ leaf = .named "logs" := by
    simp [editorLayout, leaves, root, Node.leaves, Node.childLeaves]
  intro leaf hleaf
  obtain rfl | rfl := hleaves leaf hleaf
  · exact ⟨by decide, by decide⟩
  · exact ⟨by decide, by decide⟩

/-- **One call builds the panes that many calls build.** When a layout was read from
a document and its texts are plain, and both ways of running its commands succeed
from the same start, the panes have the same titles and got the same keys. The same
pane is active as long as there is no focus. With focus, many calls make the pane
with the title active; one call makes the pane active that has the number of the
title in the window before, and leaves the active pane as it is when the title was
not there. -/
theorem executeBatch_of_execute {σ : Type} {runner : Runner σ} {window : σ → Window Terminal}
    (hreaches : ReachesTmux runner window) {document : Document} {layout : Layout}
    (hdocument : Layout.ofDocument document = .ok layout) (hplain : layout.IsPlain)
    {directory name : Option String} (hdirectory : ∀ text ∈ directory, Line.IsQuotable text)
    (hname : ∀ text ∈ name, Line.IsQuotable text) (start : σ) :
    ∃ steps, layout.compile directory name = .ok steps ∧
      let lines := steps.map Step.text
      let many := runner.execute start lines
      let one := runner.executeBatch start lines
      many.result = .ok () → one.result = .ok () →
        (window one.state).panes = (window many.state).panes ∧
        (layout.root.focusTitle? = none → window one.state = window many.state) ∧
        ∀ title, layout.root.focusTitle? = some title →
          (window many.state).paneTitled? title = some (window many.state).activeIndex ∧
          match (window start).paneTitled? title with
          | some index => (window one.state).activeIndex = index
          | none =>
            runSteps (window start) (layout.buildCommands directory name) =
              .ok (window one.state) := by
  refine ⟨_, compile_of_ofDocument hdocument directory name, ?_⟩
  intro lines many one hmany hone
  have hread := isReadable_of_mem_commands hplain hdirectory hname
  -- both ways build the same window, and differ in where the title is looked for
  obtain ⟨built, hbuilt, hfocus⟩ :=
    exists_of_runSteps_append (window_of_execute hreaches hread hmany)
  rw [runSteps_focusCommands_eq] at hfocus
  have hasked := window_of_executeBatch hreaches (List.cons_ne_nil _ _) hone
    (obey_batchLine hplain hdirectory hname hbuilt)
  refine ⟨?_, fun hnone => ?_, fun title htitle => ?_⟩
  · exact (panes_of_focusAsked hasked).trans (panes_of_focusAsked hfocus).symm
  · rw [hnone] at hfocus hasked
    exact Except.ok.inj (hasked.symm.trans hfocus)
  · rw [htitle] at hfocus hasked
    obtain ⟨index, hindex⟩ := exists_paneTitled?_of_buildCommands hbuilt htitle
    refine ⟨paneTitled?_of_focusAsked hindex hfocus, ?_⟩
    rw [focusAsked] at hasked
    cases hstart : (window start).paneTitled? title with
    | some other =>
      rw [hstart] at hasked
      exact activeIndex_of_run_selectPane hasked
    | none =>
      rw [hstart] at hasked
      exact hbuilt.trans hasked

/-- Where the first pane of the window before has the title, focus is the same. -/
theorem executeBatch_of_execute_editor :
    ∃ steps, editorLayout.compile none none = .ok steps ∧
      let start : Window Terminal := ⟨[], ⟨some "editor", []⟩, [.blank]⟩
      let many := tmuxRunner.execute start (steps.map Step.text)
      let one := tmuxRunner.executeBatch start (steps.map Step.text)
      many.result = .ok () ∧ one.result = .ok () ∧ one.state.panes = many.state.panes ∧
        many.state.paneTitled? "editor" = some many.state.activeIndex ∧
        one.state.activeIndex = 1 := by
  have hdocument : Layout.ofDocument editorDocument = .ok editorLayout := rfl
  have hnone : ∀ text ∈ (none : Option String), Line.IsQuotable text := nofun
  obtain ⟨steps, hsteps, hcompare⟩ := executeBatch_of_execute reachesTmux_tmuxRunner hdocument
    isPlain_editorLayout hnone hnone ⟨[], ⟨some "editor", []⟩, [.blank]⟩
  refine ⟨steps, hsteps, ?_⟩
  intro start many one
  have hbuilt : runSteps start (editorLayout.buildCommands none none) =
      .ok ⟨[⟨some "editor", ["vi"]⟩], ⟨some "logs", []⟩, []⟩ := rfl
  obtain ⟨hmany, -, hone, -⟩ :=
    executions_tmuxRunner isPlain_editorLayout hnone hnone hbuilt rfl rfl
  rw [← eq_commands_of_compile hsteps] at hmany hone
  obtain ⟨hpanes, -, hfocus⟩ := hcompare hmany hone
  obtain ⟨htitle, hnumber⟩ := hfocus "editor" rfl
  exact ⟨hmany, hone, hpanes, htitle, hnumber⟩

/-- Where another pane of the window before has the title, focus goes astray. -/
theorem executeBatch_focus_astray :
    ∃ steps, Layout.ofDocument editorDocument = .ok editorLayout ∧
      editorLayout.compile none none = .ok steps ∧
      let start : Window Terminal := ⟨[⟨some "shell", []⟩], ⟨some "editor", []⟩, []⟩
      let many := tmuxRunner.execute start (steps.map Step.text)
      let one := tmuxRunner.executeBatch start (steps.map Step.text)
      many.result = .ok () ∧ one.result = .ok () ∧
        many.state.activeIndex = 1 ∧ one.state.activeIndex = 2 := by
  have hdocument : Layout.ofDocument editorDocument = .ok editorLayout := rfl
  have hnone : ∀ text ∈ (none : Option String), Line.IsQuotable text := nofun
  obtain ⟨steps, hsteps⟩ : ∃ steps, editorLayout.compile none none = .ok steps :=
    ⟨_, compile_of_ofDocument hdocument none none⟩
  refine ⟨steps, hdocument, hsteps, ?_⟩
  intro start many one
  let built : Window Terminal := ⟨[⟨some "editor", ["vi"]⟩], ⟨some "logs", []⟩, []⟩
  have hbuilt : runSteps start (editorLayout.buildCommands none none) = .ok built := rfl
  have hfirst : focusAsked built built editorLayout.root.focusTitle? =
      .ok ⟨[], ⟨some "editor", ["vi"]⟩, [⟨some "logs", []⟩]⟩ := rfl
  have hsecond : focusAsked start built editorLayout.root.focusTitle? = .ok built := rfl
  obtain ⟨hmany, hfocus, hone, hastray⟩ :=
    executions_tmuxRunner isPlain_editorLayout hnone hnone hbuilt hfirst hsecond
  rw [← eq_commands_of_compile hsteps] at hmany hfocus hone hastray
  exact ⟨hmany, hone, congrArg Window.activeIndex hfocus, congrArg Window.activeIndex hastray⟩

end Layout

end TmuxLayout
