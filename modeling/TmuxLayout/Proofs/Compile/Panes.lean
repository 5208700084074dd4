import TmuxLayout.Proofs.Compile.Commands
import TmuxLayout.Proofs.Layout.Leaves
import TmuxLayout.Proofs.Tmux.Window

/-!
# Commands put every leaf into its pane

Running the commands of a layout gives a window whose first panes are the leaves,
in order, and whose other panes are blank.

The invariant `Filled` says only that: some panes are done, and all behind them
are blank. Nothing is said about which container a blank pane was split off for.
So a split anywhere among the blank panes keeps it, and an empty container, whose
pane nobody fills, needs no case of its own: the next leaf takes that pane.

- `Pane.terminal`: what the pane of a leaf is told in the end.
- `Window.Filled`: the invariant.
- `Node.runSteps_commands`: what a node does to a filled window.
- `Layout.runSteps_commands`: what a layout does to any window.
- `Layout.runs_of_compile`: the panes of a compiled layout, by their indices.
-/

namespace TmuxLayout

/-- What the pane of a leaf is told: its name and its command, those that are not empty. -/
def Pane.terminal (pane : Pane) : Terminal :=
  ⟨pane.name.filter (· ≠ ""), (pane.command.filter (· ≠ "")).toList⟩

/-- A pane is told what its leaf has for it. -/
theorem Pane.terminal_eq (pane : Pane) :
    pane.terminal = ⟨pane.title?, pane.startupCommand?.toList⟩ := by
  rw [terminal, title?_eq, startupCommand?_eq]

/-- The pane of a leaf has the title of that leaf and no other. -/
theorem Pane.title_terminal (pane : Pane) : pane.terminal.title = pane.title? :=
  pane.title?_eq.symm

theorem Pane.hasTitle_terminal_iff {pane : Pane} {title : String} :
    pane.terminal.hasTitle title = true ↔ pane.IsTitled title := by
  rw [Terminal.hasTitle, decide_eq_true_iff, title_terminal, title?_eq_some_iff]

/-- Some panes are done, and all behind them are blank. -/
def Window.Filled (w : Window Terminal) (done : List Terminal) (spare : Nat) : Prop :=
  w.panes = done ++ List.replicate spare .blank

namespace Window.Filled

variable {w : Window Terminal} {done : List Terminal} {spare : Nat}

/-- The first blank pane. -/
theorem panes_eq_cons (h : w.Filled done (spare + 1)) :
    w.panes = done ++ .blank :: List.replicate spare .blank := h

theorem length_panes (h : w.Filled done spare) : w.panes.length = done.length + spare := by
  rw [h, List.length_append, List.length_replicate]

/-- A pane that is done is found at its index. -/
theorem pane?_of_done (h : w.Filled done spare) {k : Nat} {pane : Terminal}
    (hk : done[k]? = some pane) : w.pane? (k + 1) = some pane := by
  obtain ⟨hlt, -⟩ := List.getElem?_eq_some_iff.mp hk
  rw [Window.pane?, h, List.getElem?_append_left hlt, hk]

/-- A pane behind those that are done is blank. -/
theorem eq_blank_of_pane? (h : w.Filled done spare) {index : Nat} {pane : Terminal}
    (hindex : done.length < index) (hpane : w.pane? index = some pane) : pane = .blank := by
  cases index with
  | zero => cases hpane
  | succ k =>
    rw [Window.pane?, h, List.getElem?_append_right (Nat.le_of_lt_succ hindex)] at hpane
    exact List.eq_of_mem_replicate (List.mem_of_getElem? hpane)

end Window.Filled

/-! ## Leaves -/

/-- The commands for a leaf fill the first blank pane. -/
theorem runSteps_paneSteps {w : Window Terminal} {done : List Terminal} {spare : Nat}
    (pane : Pane) (h : w.Filled done (spare + 1)) :
    ∃ v, runSteps w (paneSteps pane (done.length + 1)) = .ok v ∧
      v.Filled (done ++ [pane.terminal]) spare := by
  have hselect := run_selectPane h.panes_eq_cons
  -- both lines may be missing, so the pane is described by what they were made from
  have hrest : ∀ title? keys? : Option String,
      runSteps ⟨done, .blank, List.replicate spare .blank⟩
        ((title?.map fun title => (⟨.setTitle title, .setTitle title⟩ : Step)).toList ++
          (keys?.map fun keys => (⟨.sendKeys keys, .run keys⟩ : Step)).toList) =
        .ok ⟨done, ⟨title?, keys?.toList⟩, List.replicate spare .blank⟩ := by
    intro title? keys?
    cases title? <;> cases keys? <;> rfl
  refine ⟨_, (runSteps_cons _ hselect).trans (hrest pane.title? pane.startupCommand?), ?_⟩
  rw [Window.Filled, Pane.terminal_eq, List.append_assoc]
  rfl

/-! ## Containers -/

/-- The splits of a container, from the first blank pane on, make more of them. -/
theorem runSteps_splits (done : List Terminal) (spare : Nat) (directory : String)
    (frame : Frame) (childCount : Nat) :
    ∃ v, runSteps ⟨done, .blank, List.replicate spare .blank⟩
        (splits directory frame childCount) = .ok v ∧
      v.Filled done (spare + 1 + (childCount - 1)) := by
  have hsplits : ∀ step ∈ splits directory frame childCount, ∃ direction percent directory,
      step.command = .splitWindow direction percent directory := by
    intro step hstep
    obtain ⟨percent, hpercent⟩ := command_of_mem_splits hstep
    exact ⟨frame.direction, percent, directory, hpercent⟩
  obtain ⟨v, hv, hpanes⟩ :=
    runSteps_splitWindow ⟨done, .blank, List.replicate spare .blank⟩ hsplits
  refine ⟨v, hv, ?_⟩
  rw [Window.Filled, hpanes, length_splits, List.replicate_append_replicate,
    ← List.replicate_succ]
  congr 2
  omega

mutual

/-- The commands for a node fill its leaves in, one after the other, and leave the
blank panes that its splits made and its leaves did not take. -/
theorem Node.runSteps_commands (directory : String) (node : Node) {w : Window Terminal}
    {done : List Terminal} {spare : Nat} (h : w.Filled done (spare + 1)) :
    ∃ v, runSteps w (node.commands directory (done.length + 1)) = .ok v ∧
      v.Filled (done ++ node.leaves.map Pane.terminal)
        (spare + 1 + node.splitCount - node.paneCount) := by
  cases node with
  | pane pane =>
    exact runSteps_paneSteps pane h
  | container frame children =>
    have hselect := run_selectPane h.panes_eq_cons
    obtain ⟨u, hu, hfilled⟩ := runSteps_splits done spare directory frame children.length
    obtain ⟨v, hv, hfilled⟩ := runSteps_childCommands directory children (by omega) hfilled
    refine ⟨v, ?_, ?_⟩
    · rw [Node.commands, List.cons_append, runSteps_cons _ hselect, runSteps_append _ hu]
      exact hv
    · -- the splits of the container stand before those of its children
      rw [Node.leaves, Node.splitCount_container, Node.paneCount, ← Nat.add_assoc]
      exact hfilled

/-- The commands for a row of nodes need a blank pane for each of them. -/
theorem runSteps_childCommands (directory : String) (nodes : List Node) {w : Window Terminal}
    {done : List Terminal} {spare : Nat} (hspare : nodes.length ≤ spare)
    (h : w.Filled done spare) :
    ∃ v, runSteps w (childCommands directory nodes (done.length + 1)) = .ok v ∧
      v.Filled (done ++ (Node.childLeaves nodes).map Pane.terminal)
        (spare + Node.childSplitCount nodes - Node.paneCounts nodes) := by
  cases nodes with
  | nil =>
    refine ⟨w, rfl, ?_⟩
    rw [Node.childLeaves, List.map_nil, List.append_nil]
    exact h
  | cons node nodes =>
    rw [List.length_cons] at hspare
    have hpanes := Node.paneCount_le_splitCount node
    -- the first node takes one blank pane at most, so the others keep theirs
    obtain ⟨rest, rfl⟩ : ∃ rest, spare = rest + 1 := ⟨spare - 1, by omega⟩
    obtain ⟨u, hu, hfilled⟩ := Node.runSteps_commands directory node h
    obtain ⟨v, hv, hfilled⟩ :=
      runSteps_childCommands directory nodes (by omega) hfilled
    refine ⟨v, ?_, ?_⟩
    · rw [List.length_append, List.length_map, Node.length_leaves,
        Nat.add_right_comm] at hv
      rw [childCommands, runSteps_append _ hu]
      exact hv
    · rw [Node.childLeaves, List.map_append, ← List.append_assoc, Node.childSplitCount_cons,
        Node.paneCounts]
      have hcount : rest + 1 + (node.splitCount + Node.childSplitCount nodes) -
            (node.paneCount + Node.paneCounts nodes) =
          rest + 1 + node.splitCount - node.paneCount + Node.childSplitCount nodes -
            Node.paneCounts nodes := by
        omega
      rw [hcount]
      exact hfilled

end

/-! ## Layouts -/

namespace Layout

/-- The commands that build a layout fill the panes of a new window. -/
theorem runSteps_buildCommands (layout : Layout) (directory window : Option String)
    (start : Window Terminal) :
    ∃ v, runSteps start (layout.buildCommands directory window) = .ok v ∧
      v.Filled (layout.leaves.map Pane.terminal)
        (1 + layout.root.splitCount - layout.paneCount) := by
  obtain ⟨u, hu, hfilled⟩ :=
    runSteps_splits [] 0 (directory.getD currentPath) layout.frame layout.children.length
  obtain ⟨v, hv, hfilled⟩ := runSteps_childCommands (directory.getD currentPath)
    layout.children (by omega) hfilled
  refine ⟨v, ?_, ?_⟩
  · rw [buildCommands, List.cons_append, runSteps_cons (v := .single .blank) _ rfl]
    exact (runSteps_append (w := .single .blank) _ hu).trans hv
  · rw [root, Node.splitCount_container, ← Nat.add_assoc]
    exact hfilled

/-- Focus changes no pane. -/
theorem runSteps_focusCommands (layout : Layout) (w : Window Terminal) :
    ∃ v, runSteps w layout.focusCommands = .ok v ∧ v.panes = w.panes := by
  rw [focusCommands]
  cases layout.root.focusTitle? with
  | none => exact ⟨w, rfl, rfl⟩
  | some title => exact ⟨w.focus (Terminal.hasTitle title), rfl, Window.panes_focus w _⟩

/-- The commands of a layout give a window that is filled with its leaves. -/
theorem runSteps_commands (layout : Layout) (directory window : Option String)
    (start : Window Terminal) :
    ∃ v, runSteps start (layout.commands directory window) = .ok v ∧
      v.Filled (layout.leaves.map Pane.terminal)
        (1 + layout.root.splitCount - layout.paneCount) := by
  obtain ⟨u, hu, hfilled⟩ := runSteps_buildCommands layout directory window start
  obtain ⟨v, hv, hpanes⟩ := runSteps_focusCommands layout u
  exact ⟨v, (runSteps_append _ hu).trans hv, hpanes.trans hfilled⟩

/-- **A compiled layout builds its window.** Run in any window, no step of it
fails. The pane with the index of a leaf has the title of that leaf and received
its command once, or nothing; all panes behind are blank. There are as many panes
as one pane and all splits make. -/
theorem runs_of_compile {layout : Layout} {directory window : Option String}
    {steps : List Step} (h : layout.compile directory window = .ok steps)
    (start : Window Terminal) :
    ∃ w, runSteps start steps = .ok w ∧
      (∀ k leaf, layout.leaves[k]? = some leaf →
        ∃ pane, w.pane? (k + 1) = some pane ∧ pane.title = leaf.name.filter (· ≠ "") ∧
          pane.received = (leaf.command.filter (· ≠ "")).toList) ∧
      (∀ index pane, layout.paneCount < index → w.pane? index = some pane →
        pane = .blank) ∧
      layout.leaves.length = layout.paneCount ∧
      w.panes.length = 1 + Node.splitsFor (layout.fanouts.filter (1 ≤ ·)) := by
  obtain ⟨w, hw, hfilled⟩ := runSteps_commands layout directory window start
  rw [← eq_commands_of_compile h] at hw
  have hlength := length_leaves_eq_paneCount layout
  refine ⟨w, hw, ?_, ?_, hlength, ?_⟩
  -- pane `k + 1` was filled for leaf `k`
  · intro k leaf hleaf
    refine ⟨leaf.terminal, hfilled.pane?_of_done ?_, rfl, rfl⟩
    rw [List.getElem?_map, hleaf]
    rfl
  · intro index pane hindex hpane
    refine hfilled.eq_blank_of_pane? ?_ hpane
    rw [List.length_map, hlength]
    exact hindex
  · -- the subtraction in the number of spare panes is a true one
    have hle : layout.paneCount ≤ layout.root.splitCount + 1 :=
      Node.paneCount_le_splitCount layout.root
    rw [hfilled.length_panes, List.length_map, hlength, Node.splitsFor_filter_pos]
    show _ = 1 + layout.root.splitCount
    omega

/-- A leaf behind an empty container takes the pane of that container. -/
theorem runs_of_compile_behind_empty :
    let layout : Layout := ⟨none, .plain .horizontal,
      [.container (.plain .vertical) [], .pane ((Pane.named "logs").withCommand "top")]⟩
    ∃ steps w, layout.compile none none = .ok steps ∧
      runSteps (.single .blank) steps = .ok w ∧
      w.pane? 1 = some ⟨some "logs", ["top"]⟩ ∧ w.panes.length = 2 := by
  intro layout
  have hcompile : layout.compile none none = .ok _ := rfl
  obtain ⟨w, hw, hleaf, -, -, hlength⟩ := runs_of_compile hcompile (.single .blank)
  obtain ⟨⟨title, received⟩, hpane, htitle, hreceived⟩ := hleaf 0 _ rfl
  refine ⟨_, w, hcompile, hw, ?_, hlength⟩
  rw [hpane]
  cases htitle
  cases hreceived
  rfl

end Layout

end TmuxLayout
