import TmuxLayout.Compile

/-!
# The commands of a tree without the checks

Compiling checks ratios on its way and hands the number of the next pane from
node to node. Both can be taken apart: the faults are those of the check alone,
and the commands are a function of the tree and the number of its first pane.

- `Node.commands`, `childCommands`: the commands of a node, with no check.
- `Node.steps_eq`: the steps of a node are its commands, behind the check; the
  number of the next pane has gone up by the number of leaves.
- `Layout.commands`, `Layout.compile_eq`: the same for a layout.
-/

namespace TmuxLayout

mutual

/-- The commands for a node whose first pane has the number `index`. -/
def Node.commands (directory : String) : Node → (index : Nat) → List Step
  | .pane pane, index => paneSteps pane index
  | .container frame children, index =>
    ⟨.selectPane index, .enterContainer index⟩ ::
      splits directory frame children.length ++ childCommands directory children index

/-- The commands for a row of nodes; the first pane of the first of them has the
number `index`. -/
def childCommands (directory : String) : List Node → (index : Nat) → List Step
  | [], _ => []
  | node :: nodes, index =>
    node.commands directory index ++ childCommands directory nodes (index + node.paneCount)

end

/-! ## Splits -/

theorem length_splits (directory : String) (frame : Frame) (childCount : Nat) :
    (splits directory frame childCount).length = childCount - 1 := by
  rw [splits, List.length_map, List.length_zipIdx, splitPercentages, List.length_map,
    List.length_range]

/-- The splits of a container all have its direction and the one directory. -/
theorem command_of_mem_splits {directory : String} {frame : Frame} {childCount : Nat}
    {step : Step} (h : step ∈ splits directory frame childCount) :
    ∃ percent, step.command = .splitWindow frame.direction percent directory := by
  rw [splits] at h
  obtain ⟨⟨percent, position⟩, -, rfl⟩ := List.mem_map.mp h
  exact ⟨percent, rfl⟩

/-! ## Checks and commands come apart -/

mutual

/-- Compiling a node fails as the check of its ratios does, and else gives its
commands and the number behind its last leaf. -/
theorem Node.steps_eq (directory path : String) (node : Node) (index : Nat) :
    node.steps directory path index =
      (node.checkRatios path).map fun _ =>
        (node.commands directory index, index + node.paneCount) := by
  cases node with
  | pane pane => rfl
  | container frame children =>
    rw [Node.steps, Node.checkRatios, childSteps_eq directory path 0 children index]
    cases checkRatio frame children.length path with
    | error fault => rfl
    | ok _ =>
      cases Node.checkChildRatios path 0 children with
      | error fault => rfl
      | ok _ => rfl

/-- Compiling a row of nodes fails as the check of its ratios does, and else
gives its commands and the number behind its last leaf. -/
theorem childSteps_eq (directory path : String) (position : Nat) (nodes : List Node)
    (index : Nat) :
    childSteps directory path position nodes index =
      (Node.checkChildRatios path position nodes).map fun _ =>
        (childCommands directory nodes index, index + Node.paneCounts nodes) := by
  cases nodes with
  | nil => rfl
  | cons node nodes =>
    rw [childSteps, Node.checkChildRatios, Node.steps_eq directory _ node index]
    cases node.checkRatios (childPath path position) with
    | error fault => rfl
    | ok _ =>
      -- the others begin where the node ends
      show (childSteps directory path (position + 1) nodes (index + node.paneCount)).bind _ =
        Except.map _ (Node.checkChildRatios path (position + 1) nodes)
      rw [childSteps_eq directory path (position + 1) nodes (index + node.paneCount)]
      cases Node.checkChildRatios path (position + 1) nodes with
      | error fault => rfl
      | ok _ =>
        rw [childCommands, Node.paneCounts, ← Nat.add_assoc]
        rfl

end

namespace Layout

/-! ## Layouts -/

/-- The commands that build the panes of a layout, the one for focus apart. -/
def buildCommands (layout : Layout) (directory window : Option String) : List Step :=
  ⟨.newWindow window (directory.getD currentPath), .createWindow⟩ ::
    splits (directory.getD currentPath) layout.frame layout.children.length ++
      childCommands (directory.getD currentPath) layout.children 1

/-- The command for focus, if there is one. -/
def focusCommands (layout : Layout) : List Step :=
  (layout.root.focusTitle?.map focusStep).toList

/-- The commands for a layout. -/
def commands (layout : Layout) (directory window : Option String) : List Step :=
  layout.buildCommands directory window ++ layout.focusCommands

theorem compileFrom_eq (layout : Layout) (directory window : Option String) :
    layout.compileFrom directory window =
      (layout.root.checkRatios rootPath).map fun _ =>
        (layout.commands directory window, 1 + layout.paneCount) := by
  rw [compileFrom, root, Node.checkRatios, childSteps_eq]
  cases checkRatio layout.frame layout.children.length rootPath with
  | error fault => rfl
  | ok _ =>
    cases Node.checkChildRatios rootPath 0 layout.children with
    | error fault => rfl
    | ok _ => rfl

/-- Compiling a layout fails as the check of its ratios does, and else gives its
commands. -/
theorem compile_eq (layout : Layout) (directory window : Option String) :
    layout.compile directory window =
      (layout.root.checkRatios rootPath).map fun _ => layout.commands directory window := by
  rw [compile, compileFrom_eq]
  cases layout.root.checkRatios rootPath with
  | error fault => rfl
  | ok _ => rfl

/-- What a layout compiles to is its commands. -/
theorem eq_commands_of_compile {layout : Layout} {directory window : Option String}
    {steps : List Step} (h : layout.compile directory window = .ok steps) :
    steps = layout.commands directory window := by
  rw [compile_eq] at h
  cases hcheck : layout.root.checkRatios rootPath with
  | error fault =>
    rw [hcheck] at h
    cases h
  | ok _ =>
    rw [hcheck] at h
    cases h
    rfl

/-- A layout whose ratios fit compiles. -/
theorem compile_of_checkRatios {layout : Layout} (directory window : Option String)
    (h : layout.root.checkRatios rootPath = .ok ()) :
    layout.compile directory window = .ok (layout.commands directory window) := by
  rw [compile_eq, h]
  rfl

end Layout

end TmuxLayout
