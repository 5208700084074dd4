import TmuxLayout.Proofs.Compile.Commands
import TmuxLayout.Proofs.Layout.Leaves

/-!
# What focus flags change (SPEC_FULL.md §4.2, §9)

Focus flags stand on panes and on containers, and a layout that breaks the rule on
focus may have any number of them. None of the commands that build the panes reads a
flag, and neither does the check of ratios. What reads the flags is the search for the
title, and it looks at the leaves alone.

- `Node.mapFocus`, `Layout.mapFocus`: a tree with its focus flags changed, those of
  panes and those of containers each in their own way.
- `Node.checkRatios_mapFocus`, `Node.commands_mapFocus`: what reads no flag.
- `Node.focusTitle?_eq_findSome?`: the title for focus is that of a leaf that asks for it.
- `Pane.AsksForFocus`: leaves that the search does not skip.
- `focusCommandsOf`: the command for focus in a row of leaves.
- `focusLine`: the line that selects the pane with a title.
- `Layout.compile_mapFocus`: with changed flags, only the command for focus changes.
- `Layout.compile_focus_flags`: focus is one command at the end, or none.
-/

namespace TmuxLayout

/-! ## Changed flags -/

/-- The pane with its focus flag changed. -/
def Pane.mapFocus (change : Bool → Bool) (pane : Pane) : Pane :=
  { pane with focus := change pane.focus }

/-- The container with its focus flag changed. -/
def Frame.mapFocus (change : Bool → Bool) (frame : Frame) : Frame :=
  { frame with focus := change frame.focus }

namespace Node

mutual

/-- The node with the focus flags of its panes and of its containers changed. -/
def mapFocus (ofPane ofContainer : Bool → Bool) : Node → Node
  | pane p => pane (p.mapFocus ofPane)
  | container frame children =>
    container (frame.mapFocus ofContainer) (mapChildFocus ofPane ofContainer children)

/-- The row of nodes with the focus flags of its panes and of its containers changed. -/
def mapChildFocus (ofPane ofContainer : Bool → Bool) : List Node → List Node
  | [] => []
  | node :: nodes => node.mapFocus ofPane ofContainer :: mapChildFocus ofPane ofContainer nodes

end

variable (ofPane ofContainer : Bool → Bool)

theorem length_mapChildFocus (nodes : List Node) :
    (mapChildFocus ofPane ofContainer nodes).length = nodes.length := by
  induction nodes with
  | nil => rfl
  | cons node nodes ih => rw [mapChildFocus, List.length_cons, ih, List.length_cons]

mutual

/-- The leaves of a tree with changed flags are its leaves with changed flags. -/
theorem leaves_mapFocus (node : Node) :
    (node.mapFocus ofPane ofContainer).leaves = node.leaves.map (Pane.mapFocus ofPane) := by
  cases node with
  | pane p => rfl
  | container frame children =>
    rw [mapFocus, leaves, leaves]
    exact leaves_mapChildFocus children

theorem leaves_mapChildFocus (nodes : List Node) :
    childLeaves (mapChildFocus ofPane ofContainer nodes) =
      (childLeaves nodes).map (Pane.mapFocus ofPane) := by
  cases nodes with
  | nil => rfl
  | cons node nodes =>
    rw [mapChildFocus, childLeaves, childLeaves, List.map_append, leaves_mapFocus node,
      leaves_mapChildFocus nodes]

end

theorem paneCount_mapFocus (node : Node) :
    (node.mapFocus ofPane ofContainer).paneCount = node.paneCount := by
  rw [← length_leaves, leaves_mapFocus, List.length_map, length_leaves]

/-! ## What reads no flag -/

mutual

/-- Ratios are checked without a look at focus. -/
theorem checkRatios_mapFocus (path : String) (node : Node) :
    (node.mapFocus ofPane ofContainer).checkRatios path = node.checkRatios path := by
  cases node with
  | pane p => rfl
  | container frame children =>
    rw [mapFocus, checkRatios, checkRatios, length_mapChildFocus,
      checkChildRatios_mapChildFocus path 0 children]
    rfl

theorem checkChildRatios_mapChildFocus (path : String) (position : Nat) (nodes : List Node) :
    checkChildRatios path position (mapChildFocus ofPane ofContainer nodes) =
      checkChildRatios path position nodes := by
  cases nodes with
  | nil => rfl
  | cons node nodes =>
    rw [mapChildFocus, checkChildRatios, checkChildRatios,
      checkRatios_mapFocus (childPath path position) node,
      checkChildRatios_mapChildFocus path (position + 1) nodes]

end

mutual

/-- The commands that build a node do not read focus. -/
theorem commands_mapFocus (directory : String) (node : Node) (index : Nat) :
    (node.mapFocus ofPane ofContainer).commands directory index =
      node.commands directory index := by
  cases node with
  | pane p => rfl
  | container frame children =>
    rw [mapFocus, commands, commands, length_mapChildFocus,
      childCommands_mapChildFocus directory children index]
    rfl

theorem childCommands_mapChildFocus (directory : String) (nodes : List Node) (index : Nat) :
    childCommands directory (mapChildFocus ofPane ofContainer nodes) index =
      childCommands directory nodes index := by
  cases nodes with
  | nil => rfl
  | cons node nodes =>
    rw [mapChildFocus, childCommands, childCommands, commands_mapFocus directory node index,
      paneCount_mapFocus, childCommands_mapChildFocus directory nodes (index + node.paneCount)]

end

end Node

/-! ## The search for the title -/

/-- The title of a pane that has focus. -/
def Pane.focusTitle? (pane : Pane) : Option String :=
  if pane.focus then pane.title? else none

namespace Node

mutual

/-- The search goes through the leaves, from left to right. -/
theorem focusTitle?_eq_findSome? (node : Node) :
    node.focusTitle? = node.leaves.findSome? Pane.focusTitle? := by
  cases node with
  | pane p =>
    rw [leaves, List.findSome?_singleton]
    rfl
  | container frame children =>
    rw [focusTitle?, leaves]
    exact focusTitles?_eq_findSome? children

theorem focusTitles?_eq_findSome? (nodes : List Node) :
    focusTitles? nodes = (childLeaves nodes).findSome? Pane.focusTitle? := by
  cases nodes with
  | nil => rfl
  | cons node nodes =>
    rw [focusTitles?, childLeaves, List.findSome?_append, focusTitle?_eq_findSome? node,
      focusTitles?_eq_findSome? nodes]

end

end Node

/-- A pane has focus and a name that is not empty. -/
def Pane.AsksForFocus (pane : Pane) (title : String) : Prop :=
  pane.focus = true ∧ pane.name = some title ∧ title ≠ ""

/-- The title for focus is that of a pane that asks for focus with it. -/
theorem Pane.focusTitle?_eq_some_iff {pane : Pane} {title : String} :
    pane.focusTitle? = some title ↔ pane.AsksForFocus title := by
  rw [focusTitle?, AsksForFocus]
  split
  · next hfocus =>
    rw [title?_eq_some_iff, IsTitled]
    simp [hfocus]
  · next hfocus => simp [hfocus]

theorem Pane.focusTitle?_eq_none_iff {pane : Pane} :
    pane.focusTitle? = none ↔ ∀ title, ¬pane.AsksForFocus title := by
  rw [Option.eq_none_iff_forall_ne_some]
  exact forall_congr' fun title => not_congr focusTitle?_eq_some_iff

/-! ## The command for focus -/

/-- The command for focus in a row of leaves, if there is one. -/
def focusCommandsOf (leaves : List Pane) : List Step :=
  ((leaves.findSome? Pane.focusTitle?).map focusStep).toList

/-- Leaves of which none asks for focus get no command; else the first that does is the
one that gets it. -/
theorem focusCommandsOf_cases (leaves : List Pane) :
    (focusCommandsOf leaves = [] ∧ ∀ leaf ∈ leaves, ∀ title, ¬leaf.AsksForFocus title) ∨
      ∃ before leaf after title, leaves = before ++ leaf :: after ∧ leaf.AsksForFocus title ∧
        (∀ other ∈ before, ∀ title, ¬other.AsksForFocus title) ∧
        focusCommandsOf leaves = [⟨.focusTitle title, .focus title⟩] := by
  rw [focusCommandsOf]
  cases hfind : leaves.findSome? Pane.focusTitle? with
  | none =>
    have hnone := List.findSome?_eq_none_iff.mp hfind
    exact .inl ⟨rfl, fun leaf hleaf => Pane.focusTitle?_eq_none_iff.mp (hnone leaf hleaf)⟩
  | some title =>
    obtain ⟨before, leaf, after, hleaves, hleaf, hbefore⟩ := List.findSome?_eq_some_iff.mp hfind
    exact .inr ⟨before, leaf, after, title, hleaves, Pane.focusTitle?_eq_some_iff.mp hleaf,
      fun other hother => Pane.focusTitle?_eq_none_iff.mp (hbefore other hother), rfl⟩

/-- Focus without a name is skipped, and so is a name without focus. -/
example : focusCommandsOf [Pane.blank.focused, .named "logs", (Pane.named "editor").focused] =
    [⟨.focusTitle "editor", .focus "editor"⟩] := rfl

/-- The line that selects the pane with a title: the first whose index is printed. -/
def focusLine (title : String) : String :=
  "tmux select-pane -t \"$(tmux list-panes -F '#\x7b?#\x7b==:#\x7bpane_title\x7d," ++ title ++
    "\x7d,#\x7bpane_index\x7d,\x7d' | grep -v '^$' | head -1)\""

/-- The line of the focus command has the title in both of its places. -/
theorem text_focusTitle (title : String) :
    (TmuxCommand.focusTitle title).text = focusLine title := by
  -- the quotes of the line stand at the two ends of the question for the pane
  have hopening : "tmux select-pane -t \"$(tmux list-panes -F '#\x7b?#\x7b==:#\x7bpane_title\x7d," =
      "tmux select-pane -t " ++
        ("\"" ++ "$(tmux list-panes -F '#\x7b?#\x7b==:#\x7bpane_title\x7d,") := by
    decide +kernel
  have hend : "\x7d,#\x7bpane_index\x7d,\x7d' | grep -v '^$' | head -1)\"" =
      "\x7d,#\x7bpane_index\x7d,\x7d' | grep -v '^$' | head -1)" ++ "\"" := by
    decide +kernel
  show "tmux select-pane -t " ++ TmuxCommand.quoted (TmuxCommand.paneWithTitle title) = _
  unfold focusLine TmuxCommand.quoted TmuxCommand.paneWithTitle
  rw [hopening, hend]
  simp only [String.append_assoc]

/-- Without flags nothing asks for focus. -/
theorem focusCommandsOf_cleared (leaves : List Pane) :
    focusCommandsOf (leaves.map (Pane.mapFocus fun _ => false)) = [] := by
  rw [focusCommandsOf, List.findSome?_map]
  have hnone : leaves.findSome? (Pane.focusTitle? ∘ Pane.mapFocus fun _ => false) = none :=
    List.findSome?_eq_none_iff.mpr fun leaf _ => rfl
  rw [hnone]
  rfl

/-! ## Layouts -/

namespace Layout

/-- The layout with the focus flags of its panes and of its containers changed. -/
def mapFocus (ofPane ofContainer : Bool → Bool) (layout : Layout) : Layout :=
  { layout with
    frame := layout.frame.mapFocus ofContainer
    children := Node.mapChildFocus ofPane ofContainer layout.children }

/-- The layout with all focus flags cleared. -/
def withoutFocus (layout : Layout) : Layout :=
  layout.mapFocus (fun _ => false) (fun _ => false)

/-- The layout with the focus flags of its containers cleared, and those of its panes as
they are. -/
def withoutContainerFocus (layout : Layout) : Layout :=
  layout.mapFocus id (fun _ => false)

variable (ofPane ofContainer : Bool → Bool) (layout : Layout)

theorem root_mapFocus :
    (layout.mapFocus ofPane ofContainer).root = layout.root.mapFocus ofPane ofContainer := by
  rw [root, root, Node.mapFocus]
  rfl

theorem leaves_mapFocus :
    (layout.mapFocus ofPane ofContainer).leaves = layout.leaves.map (Pane.mapFocus ofPane) := by
  rw [leaves, root_mapFocus, Node.leaves_mapFocus]
  rfl

/-- Flags do not matter before the command for focus. -/
theorem buildCommands_mapFocus (directory window : Option String) :
    (layout.mapFocus ofPane ofContainer).buildCommands directory window =
      layout.buildCommands directory window := by
  rw [buildCommands, buildCommands, mapFocus]
  dsimp only
  rw [Node.length_mapChildFocus, Node.childCommands_mapChildFocus]
  rfl

/-- Compiling gives the commands that build the panes, and that for focus behind them. -/
theorem compile_eq_append (directory window : Option String) :
    layout.compile directory window =
      (layout.root.checkRatios rootPath).map fun _ =>
        layout.buildCommands directory window ++ focusCommandsOf layout.leaves := by
  rw [compile_eq, commands, focusCommands, Node.focusTitle?_eq_findSome?]
  rfl

/-- With changed flags, compiling fails as before, and else it differs only in the
command for focus. -/
theorem compile_mapFocus (directory window : Option String) :
    (layout.mapFocus ofPane ofContainer).compile directory window =
      (layout.root.checkRatios rootPath).map fun _ =>
        layout.buildCommands directory window ++
          focusCommandsOf (layout.leaves.map (Pane.mapFocus ofPane)) := by
  rw [compile_eq_append, root_mapFocus, Node.checkRatios_mapFocus, buildCommands_mapFocus,
    leaves_mapFocus]

/-- A layout has the commands that it has without flags, and that for focus behind them. -/
theorem compile_eq_withoutFocus (directory window : Option String) :
    layout.compile directory window =
      (layout.withoutFocus.compile directory window).map (· ++ focusCommandsOf layout.leaves) := by
  rw [withoutFocus, compile_mapFocus, focusCommandsOf_cleared, compile_eq_append]
  cases layout.root.checkRatios rootPath with
  | error fault => rfl
  | ok _ =>
    show Except.ok _ = Except.ok (_ ++ [] ++ _)
    rw [List.append_nil]

/-- Focus on containers does nothing. -/
theorem compile_withoutContainerFocus (directory window : Option String) :
    layout.withoutContainerFocus.compile directory window = layout.compile directory window := by
  have hsame : layout.leaves.map (Pane.mapFocus id) = layout.leaves := List.map_id _
  rw [withoutContainerFocus, compile_mapFocus, hsame, compile_eq_append]

/-- **Focus is one command at the end, or none.** A layout with any number of focused
nodes fails to compile as it does with all of its focus flags cleared, and else compiles
to the same commands. When a leaf has focus and a name that is not empty, one command
follows them, which is for the name of the first such leaf; when no leaf has, nothing
follows. Focus on containers changes nothing at all. -/
theorem compile_focus_flags (directory window : Option String) :
    (∃ trailing,
      layout.compile directory window =
        (layout.withoutFocus.compile directory window).map (· ++ trailing) ∧
      ((trailing = [] ∧ ∀ leaf ∈ layout.leaves, ∀ title, ¬leaf.AsksForFocus title) ∨
        ∃ before leaf after title, layout.leaves = before ++ leaf :: after ∧
          leaf.AsksForFocus title ∧ (∀ other ∈ before, ∀ title, ¬other.AsksForFocus title) ∧
          trailing = [⟨.focusTitle title, .focus title⟩] ∧
          trailing.map Step.text = [focusLine title])) ∧
    layout.withoutContainerFocus.compile directory window = layout.compile directory window := by
  refine ⟨⟨_, layout.compile_eq_withoutFocus directory window, ?_⟩,
    layout.compile_withoutContainerFocus directory window⟩
  obtain hnone | ⟨before, leaf, after, title, hleaves, hleaf, hbefore, hcommand⟩ :=
    focusCommandsOf_cases layout.leaves
  · exact .inl hnone
  · refine .inr ⟨before, leaf, after, title, hleaves, hleaf, hbefore, hcommand, ?_⟩
    rw [hcommand, List.map_singleton, Step.text, text_focusTitle]

end Layout

end TmuxLayout
