import Mathlib.Data.List.Forall2
import TmuxLayout.Proofs.Compile.Commands

/-!
# Where directory and window name go (SPEC_FULL.md §3, §4.2)

A layout is compiled with a directory, for the new window and all splits, and with a name
for the window. The directory is handed down the tree as it is, and only splits read it,
so two compilations can be compared step by step: behind the new window, they have the
same steps, but for the directories of splits.

- `Step.opensPane`: the new window and the splits.
- `Step.SameButDirectory`: steps whose texts have a different directory at their end, if
  they open a pane, and do not differ else.
- `Node.sameButDirectory_commands`: nodes that are compiled with two directories.
- `Layout.commands_eq_cons`: the name of the window is only in the first command.
- `Layout.compile_overrides`: two compilations of a layout.
-/

namespace TmuxLayout

/-! ## Steps -/

/-- Whether a command opens a pane. -/
def TmuxCommand.opensPane : TmuxCommand → Bool
  | newWindow _ _ | splitWindow _ _ _ => true
  | selectPane _ | setTitle _ | sendKeys _ | focusTitle _ => false

/-- The argument for the name of a window. -/
def TmuxCommand.nameArgument (name : Option String) : String :=
  name.elim "" fun name => " -n \"" ++ name ++ "\""

/-- The argument for the directory of a new pane. -/
def TmuxCommand.directoryArgument (directory : String) : String :=
  " -c \"" ++ directory ++ "\""

namespace TmuxCommand

/-- The argument for the name is the one in the text of the command. -/
theorem nameArgument_eq (name : Option String) :
    nameArgument name = name.elim "" fun name => " -n " ++ quoted name := by
  have hopening : " -n \"" = " -n " ++ "\"" := rfl
  simp only [nameArgument, hopening, append_quoted]

/-- The argument for the directory is the one in the text of the command. -/
theorem directoryArgument_eq (directory : String) :
    directoryArgument directory = " -c " ++ quoted directory := by
  have hopening : " -c \"" = " -c " ++ "\"" := rfl
  rw [directoryArgument, hopening, append_quoted]

end TmuxCommand

namespace Step

/-- Whether a step opens a pane. -/
def opensPane (step : Step) : Bool :=
  step.command.opensPane

/-- Two steps that differ in a directory, if they open a pane, and are the same else. -/
structure SameButDirectory (directory directory' : String) (step step' : Step) : Prop where
  description : step.description = step'.description
  opensPane : step.opensPane = step'.opensPane
  text_of_not_opensPane : step.opensPane = false → step.text = step'.text
  text_of_opensPane : step.opensPane = true → ∃ opening,
    step.text = opening ++ TmuxCommand.directoryArgument directory ∧
      step'.text = opening ++ TmuxCommand.directoryArgument directory'

variable {directory directory' : String}

/-- A step that opens no pane is the same for all directories. -/
theorem sameButDirectory_self {step : Step} (h : step.opensPane = false) :
    SameButDirectory directory directory' step step := by
  refine ⟨rfl, rfl, fun _ => rfl, fun hopens => ?_⟩
  rw [h] at hopens
  cases hopens

theorem forall₂_sameButDirectory_self {steps : List Step}
    (h : ∀ step ∈ steps, step.opensPane = false) :
    List.Forall₂ (SameButDirectory directory directory') steps steps :=
  List.forall₂_same.mpr fun step hstep => sameButDirectory_self (h step hstep)

/-- Splits for two directories differ in nothing else. -/
theorem sameButDirectory_splitWindow (direction : Direction) (percent : Float)
    (purpose : Purpose) :
    SameButDirectory directory directory' ⟨.splitWindow direction percent directory, purpose⟩
      ⟨.splitWindow direction percent directory', purpose⟩ := by
  refine ⟨rfl, rfl, nofun, fun _ => ?_⟩
  refine ⟨"tmux split-window " ++ direction.flag ++ " -p " ++ percentText percent, ?_, ?_⟩
  · rw [TmuxCommand.directoryArgument_eq]
    exact String.append_assoc
  · rw [TmuxCommand.directoryArgument_eq]
    exact String.append_assoc

end Step

open Step

/-! ## Nodes -/

section

variable (directory directory' : String)

/-- Splits have their directories at the end. -/
theorem sameButDirectory_splits (frame : Frame) (childCount : Nat) :
    List.Forall₂ (SameButDirectory directory directory') (splits directory frame childCount)
      (splits directory' frame childCount) := by
  rw [splits, splits, List.forall₂_map_left_iff, List.forall₂_map_right_iff]
  exact List.forall₂_same.mpr fun _ _ => sameButDirectory_splitWindow _ _ _

/-- The steps of a leaf open no pane. -/
theorem opensPane_of_mem_paneSteps {pane : Pane} {index : Nat} {step : Step}
    (h : step ∈ paneSteps pane index) : step.opensPane = false := by
  rw [paneSteps, List.mem_cons, List.mem_append, Option.mem_toList, Option.mem_toList] at h
  obtain rfl | htitle | hkeys := h
  · rfl
  · obtain ⟨title, -, rfl⟩ := Option.map_eq_some_iff.mp htitle
    rfl
  · obtain ⟨keys, -, rfl⟩ := Option.map_eq_some_iff.mp hkeys
    rfl

mutual

/-- A node that is compiled with two directories: only its splits differ. -/
theorem Node.sameButDirectory_commands (node : Node) (index : Nat) :
    List.Forall₂ (SameButDirectory directory directory') (node.commands directory index)
      (node.commands directory' index) := by
  cases node with
  | pane pane => exact forall₂_sameButDirectory_self fun _ hstep => opensPane_of_mem_paneSteps hstep
  | container frame children =>
    have hsplits := sameButDirectory_splits directory directory' frame children.length
    have hchildren := sameButDirectory_childCommands children index
    exact List.rel_append (.cons (sameButDirectory_self rfl) hsplits) hchildren

theorem sameButDirectory_childCommands (nodes : List Node) (index : Nat) :
    List.Forall₂ (SameButDirectory directory directory') (childCommands directory nodes index)
      (childCommands directory' nodes index) := by
  cases nodes with
  | nil => exact .nil
  | cons node nodes =>
    exact List.rel_append (Node.sameButDirectory_commands node index)
      (sameButDirectory_childCommands nodes (index + node.paneCount))

end

end

/-! ## Layouts -/

/-- The step for a new window. -/
def windowStep (directory window : Option String) : Step :=
  ⟨.newWindow window (directory.getD currentPath), .createWindow⟩

/-- A new window gets its name, if there is one, and then its directory. -/
theorem text_windowStep (directory window : Option String) :
    (windowStep directory window).text = "tmux new-window" ++ TmuxCommand.nameArgument window ++
      TmuxCommand.directoryArgument (directory.getD currentPath) := by
  rw [TmuxCommand.nameArgument_eq, TmuxCommand.directoryArgument_eq]
  exact String.append_assoc

namespace Layout

/-- The commands for a layout behind the one for the new window. -/
def laterCommands (layout : Layout) (directory : Option String) : List Step :=
  splits (directory.getD currentPath) layout.frame layout.children.length ++
    childCommands (directory.getD currentPath) layout.children 1 ++ layout.focusCommands

/-- The name of the window is read by the first command alone. -/
theorem commands_eq_cons (layout : Layout) (directory window : Option String) :
    layout.commands directory window =
      windowStep directory window :: layout.laterCommands directory := rfl

/-- Behind the new window, the commands of a layout differ in their directories alone. -/
theorem sameButDirectory_laterCommands (layout : Layout) (directory directory' : Option String) :
    List.Forall₂ (SameButDirectory (directory.getD currentPath) (directory'.getD currentPath))
      (layout.laterCommands directory) (layout.laterCommands directory') := by
  refine List.rel_append (List.rel_append ?_ ?_) ?_
  · exact sameButDirectory_splits _ _ layout.frame layout.children.length
  · exact sameButDirectory_childCommands _ _ layout.children 1
  · refine forall₂_sameButDirectory_self fun step hstep => ?_
    rw [focusCommands, Option.mem_toList] at hstep
    obtain ⟨title, -, rfl⟩ := Option.map_eq_some_iff.mp hstep
    rfl

/-- **Directory and window name reach the commands that open panes, and no others.** A
layout fails to compile with the same fault whatever they are. Else the first command is
the one for the new window, with its name and its directory. The steps behind it do not
depend on the name. With another directory they are as many, with the same descriptions,
and only those that open panes have other texts, which end with the directory. No
directory is the same as that of the active pane, and the name of the layout is not used. -/
theorem compile_overrides (layout : Layout) (directory directory' window window' : Option String) :
    ((∃ fault, layout.compile directory window = .error fault ∧
        layout.compile directory' window' = .error fault) ∨
      ∃ steps steps', layout.compile directory window = .ok (windowStep directory window :: steps) ∧
        layout.compile directory window' = .ok (windowStep directory window' :: steps) ∧
        layout.compile directory' window' = .ok (windowStep directory' window' :: steps') ∧
        List.Forall₂ (SameButDirectory (directory.getD currentPath)
          (directory'.getD currentPath)) steps steps') ∧
    (windowStep directory window).text = "tmux new-window" ++ TmuxCommand.nameArgument window ++
      TmuxCommand.directoryArgument (directory.getD "#\x7bpane_current_path\x7d") ∧
    layout.compile none window = layout.compile (some "#\x7bpane_current_path\x7d") window ∧
    ∀ name, { layout with name := name }.compile directory window =
      layout.compile directory window := by
  refine ⟨?_, text_windowStep directory window, rfl, fun name => rfl⟩
  rw [compile_eq, compile_eq, compile_eq, commands_eq_cons, commands_eq_cons, commands_eq_cons]
  cases layout.root.checkRatios rootPath with
  | error fault => exact .inl ⟨fault, rfl, rfl⟩
  | ok _ => exact .inr ⟨_, _, rfl, rfl, rfl, layout.sameButDirectory_laterCommands _ _⟩

/-- A layout with a split in a split, in two directories and with a name for one of the
windows: both splits have the directory. -/
theorem compile_overrides_nested :
    let layout : Layout := ⟨none, .plain .horizontal,
      [.container (.plain .vertical) [.pane .blank, .pane (.named "logs")], .pane .blank]⟩
    ∃ steps steps', layout.compile (some "src") (some "main") =
        .ok (windowStep (some "src") (some "main") :: steps) ∧
      layout.compile (some "bin") none = .ok (windowStep (some "bin") none :: steps') ∧
      List.Forall₂ (SameButDirectory "src" "bin") steps steps' ∧
      steps.countP opensPane = 2 ∧
      (windowStep (some "src") (some "main")).text = "tmux new-window -n \"main\" -c \"src\"" := by
  intro layout
  have hcompile : layout.compile (some "src") (some "main") = .ok _ := rfl
  obtain ⟨hsteps, htext, -⟩ := layout.compile_overrides (some "src") (some "bin") (some "main") none
  obtain ⟨fault, herror, -⟩ | ⟨steps, steps', hone, -, hother, hsame⟩ := hsteps
  · cases hcompile.symm.trans herror
  · refine ⟨steps, steps', hone, hother, hsame, ?_, htext⟩
    cases hcompile.symm.trans hone
    rfl

end Layout

end TmuxLayout
