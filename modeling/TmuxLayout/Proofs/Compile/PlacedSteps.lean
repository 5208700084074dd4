import TmuxLayout.Proofs.Compile.Places
import TmuxLayout.Proofs.Tmux.Plots

/-!
# Commands with their nodes

The commands of a layout do not say which node they are for. Here they are listed
with the place of their node; without the places they are the commands.

- `Node.placedSteps`, `Layout.placedSteps`: the commands with their nodes.
- `Layout.map_step_placedSteps`: the commands without their nodes.
- `Step.configures`: whether a step gives a pane its title or its command.
- `Node.mem_placedSteps`, `Node.exists_of_mem_placedSteps`: the steps that do so for
  a leaf are all listed with its place, and no others are.
-/

namespace TmuxLayout

mutual

/-- The commands for a node at a place whose first pane has the number `index`. -/
def Node.placedSteps (directory : String) (place : Place) :
    Node → (index : Nat) → List PlacedStep
  | .pane p, index => (paneSteps p index).map (.mk place 0)
  | .container frame children, index =>
    (⟨.selectPane index, .enterContainer index⟩ ::
      splits directory frame children.length).map (.mk place children.length) ++
        placedChildSteps directory place 0 children index

/-- The commands for children, counted from `position`, of the container at a place;
the first pane of the first of them has the number `index`. -/
def placedChildSteps (directory : String) (place : Place) (position : Nat) :
    List Node → (index : Nat) → List PlacedStep
  | [], _ => []
  | node :: nodes, index =>
    node.placedSteps directory (place ++ [position]) index ++
      placedChildSteps directory place (position + 1) nodes (index + node.paneCount)

end

namespace Layout

/-- The commands that build the panes of a layout, with their nodes. -/
def placedBuildSteps (layout : Layout) (directory window : Option String) : List PlacedStep :=
  (⟨.newWindow window (directory.getD currentPath), .createWindow⟩ ::
    splits (directory.getD currentPath) layout.frame layout.children.length).map
      (.mk [] layout.children.length) ++
    placedChildSteps (directory.getD currentPath) [] 0 layout.children 1

/-- The commands for a layout with their nodes; the one for focus is for the root. -/
def placedSteps (layout : Layout) (directory window : Option String) : List PlacedStep :=
  layout.placedBuildSteps directory window ++
    layout.focusCommands.map (.mk [] layout.children.length)

end Layout

/-! ## Commands without their nodes -/

theorem map_step_mk (place : Place) (childCount : Nat) (steps : List Step) :
    (steps.map (PlacedStep.mk place childCount)).map PlacedStep.step = steps := by
  rw [List.map_map]
  exact List.map_id' steps

mutual

/-- Without their nodes the commands of a node are its commands. -/
theorem Node.map_step_placedSteps (directory : String) (place : Place) (node : Node)
    (index : Nat) :
    (node.placedSteps directory place index).map PlacedStep.step =
      node.commands directory index := by
  cases node with
  | pane p => exact map_step_mk place 0 _
  | container frame children =>
    rw [Node.placedSteps, List.map_append, map_step_mk,
      map_step_placedChildSteps directory place 0 children index, Node.commands]

theorem map_step_placedChildSteps (directory : String) (place : Place) (position : Nat)
    (nodes : List Node) (index : Nat) :
    (placedChildSteps directory place position nodes index).map PlacedStep.step =
      childCommands directory nodes index := by
  cases nodes with
  | nil => rfl
  | cons node nodes =>
    rw [placedChildSteps, List.map_append, Node.map_step_placedSteps directory _ node index,
      map_step_placedChildSteps directory place (position + 1) nodes, childCommands]

end

/-- Without their nodes the commands of a layout are its commands. -/
theorem Layout.map_step_placedSteps (layout : Layout) (directory window : Option String) :
    (layout.placedSteps directory window).map PlacedStep.step =
      layout.commands directory window := by
  rw [placedSteps, placedBuildSteps, List.map_append, List.map_append, map_step_mk, map_step_mk,
    map_step_placedChildSteps]
  rfl

/-! ## Titles and commands of leaves -/

/-- Whether a step gives the active pane its title or its command. -/
def Step.configures (step : Step) : Bool :=
  match step.command with
  | .setTitle _ | .sendKeys _ => true
  | .newWindow _ _ | .splitWindow _ _ _ | .selectPane _ | .focusTitle _ => false

/-- Behind the step that selects its pane, a leaf has only steps that configure it. -/
theorem configures_of_mem_configuration {pane : Pane} {step : Step}
    (h : step ∈ pane.configuration) : step.configures = true := by
  rw [Pane.configuration_eq, List.mem_append, Option.mem_toList, Option.mem_toList] at h
  rcases h with htitle | hkeys
  · obtain ⟨title, -, rfl⟩ := Option.map_eq_some_iff.mp htitle
    rfl
  · obtain ⟨keys, -, rfl⟩ := Option.map_eq_some_iff.mp hkeys
    rfl

/-- The steps of a container configure nothing when the one before its splits does
not. -/
theorem configures_of_mem_cons_splits {directory : String} {frame : Frame} {childCount : Nat}
    {first step : Step} (hfirst : first.configures = false)
    (h : step ∈ first :: splits directory frame childCount) : step.configures = false := by
  cases h with
  | head => exact hfirst
  | tail _ hsplit =>
    obtain ⟨percent, hcommand⟩ := command_of_mem_splits hsplit
    rw [Step.configures, hcommand]

mutual

/-- A leaf gets its title and its command in steps of its own. -/
theorem Node.mem_placedSteps (directory : String) (place : Place) (node : Node) (index : Nat)
    {below : Place} {pane : Pane} (hat : node.at? below = some (.pane pane)) {step : Step}
    (hstep : step ∈ pane.configuration) :
    ⟨place ++ below, 0, step⟩ ∈ node.placedSteps directory place index := by
  cases node with
  | pane p =>
    cases below with
    | nil =>
      cases hat
      rw [List.append_nil, Node.placedSteps, paneSteps_eq_block]
      exact List.mem_map_of_mem (List.mem_cons_of_mem _ hstep)
    | cons number below => cases hat
  | container frame children =>
    cases below with
    | nil => cases hat
    | cons number below =>
      obtain ⟨child, hchild, hat⟩ := Option.bind_eq_some_iff.mp hat
      have hmem := mem_placedChildSteps directory place 0 children index hchild hat hstep
      rw [Nat.zero_add] at hmem
      exact List.mem_append_right _ hmem

theorem mem_placedChildSteps (directory : String) (place : Place) (position : Nat)
    (nodes : List Node) (index : Nat) {number : Nat} {child : Node}
    (hchild : nodes[number]? = some child) {below : Place} {pane : Pane}
    (hat : child.at? below = some (.pane pane)) {step : Step}
    (hstep : step ∈ pane.configuration) :
    ⟨place ++ (position + number) :: below, 0, step⟩ ∈
      placedChildSteps directory place position nodes index := by
  cases nodes with
  | nil => cases hchild
  | cons node nodes =>
    rw [placedChildSteps, List.mem_append]
    cases number with
    | zero =>
      cases hchild
      have hmem := Node.mem_placedSteps directory (place ++ [position]) child index hat hstep
      rw [List.append_assoc] at hmem
      exact .inl hmem
    | succ number =>
      have hmem := mem_placedChildSteps directory place (position + 1) nodes
        (index + node.paneCount) hchild hat hstep
      rw [Nat.add_assoc, Nat.add_comm 1] at hmem
      exact .inr hmem

end

mutual

/-- A step that gives a title or a command is one of a leaf. -/
theorem Node.exists_of_mem_placedSteps (directory : String) (place : Place) (node : Node)
    (index : Nat) {placed : PlacedStep} (h : placed ∈ node.placedSteps directory place index)
    (hconfigures : placed.step.configures = true) :
    ∃ below pane, placed.place = place ++ below ∧ node.at? below = some (.pane pane) ∧
      placed.step ∈ pane.configuration := by
  cases node with
  | pane p =>
    rw [Node.placedSteps, paneSteps_eq_block] at h
    obtain ⟨step, hstep, rfl⟩ := List.mem_map.mp h
    -- the step that selects the pane configures nothing
    cases hstep with
    | head => cases hconfigures
    | tail _ hstep => exact ⟨[], p, (List.append_nil place).symm, rfl, hstep⟩
  | container frame children =>
    rw [Node.placedSteps, List.mem_append] at h
    rcases h with hown | hbelow
    · obtain ⟨step, hstep, rfl⟩ := List.mem_map.mp hown
      have hnot := configures_of_mem_cons_splits rfl hstep
      exact absurd (hnot.symm.trans hconfigures) Bool.false_ne_true
    · obtain ⟨number, child, below, pane, hchild, hplace, hat, hstep⟩ :=
        exists_of_mem_placedChildSteps directory place 0 children index hbelow hconfigures
      refine ⟨number :: below, pane, by rw [hplace, Nat.zero_add], ?_, hstep⟩
      rw [Node.at?, hchild]
      exact hat

theorem exists_of_mem_placedChildSteps (directory : String) (place : Place) (position : Nat)
    (nodes : List Node) (index : Nat) {placed : PlacedStep}
    (h : placed ∈ placedChildSteps directory place position nodes index)
    (hconfigures : placed.step.configures = true) :
    ∃ number child below pane, nodes[number]? = some child ∧
      placed.place = place ++ (position + number) :: below ∧
      child.at? below = some (.pane pane) ∧ placed.step ∈ pane.configuration := by
  cases nodes with
  | nil => cases h
  | cons node nodes =>
    rw [placedChildSteps, List.mem_append] at h
    rcases h with hfirst | hrest
    · obtain ⟨below, pane, hplace, hat, hstep⟩ :=
        Node.exists_of_mem_placedSteps directory _ node index hfirst hconfigures
      exact ⟨0, node, below, pane, rfl, by rw [hplace, List.append_assoc]; rfl, hat, hstep⟩
    · obtain ⟨number, child, below, pane, hchild, hplace, hat, hstep⟩ :=
        exists_of_mem_placedChildSteps directory place (position + 1) nodes _ hrest hconfigures
      refine ⟨number + 1, child, below, pane, hchild, ?_, hat, hstep⟩
      rw [hplace, Nat.add_assoc, Nat.add_comm 1]

end

namespace Layout

variable {layout : Layout}

/-- Each title and each command of a leaf is sent by a step with its place. -/
theorem mem_placedSteps (directory window : Option String) {place : Place} {pane : Pane}
    (hat : layout.root.at? place = some (.pane pane)) {step : Step}
    (hstep : step ∈ pane.configuration) :
    ⟨place, 0, step⟩ ∈ layout.placedSteps directory window := by
  cases place with
  | nil => cases hat
  | cons number below =>
    obtain ⟨child, hchild, hat⟩ := Option.bind_eq_some_iff.mp hat
    have hmem := mem_placedChildSteps (directory.getD currentPath) [] 0 layout.children 1
      hchild hat hstep
    rw [Nat.zero_add] at hmem
    exact List.mem_append_left _ (List.mem_append_right _ hmem)

/-- A step that gives a title or a command is one of the leaf at its place. -/
theorem exists_of_mem_placedSteps {directory window : Option String} {placed : PlacedStep}
    (h : placed ∈ layout.placedSteps directory window)
    (hconfigures : placed.step.configures = true) :
    ∃ pane, layout.root.at? placed.place = some (.pane pane) ∧
      placed.step ∈ pane.configuration := by
  rw [placedSteps, placedBuildSteps, List.append_assoc, List.mem_append, List.mem_append] at h
  rcases h with hroot | hbelow | hfocus
  -- making the window, splitting it and focus tell no pane its title or its command
  · obtain ⟨step, hstep, rfl⟩ := List.mem_map.mp hroot
    have hnot := configures_of_mem_cons_splits rfl hstep
    exact absurd (hnot.symm.trans hconfigures) Bool.false_ne_true
  · obtain ⟨number, child, below, pane, hchild, hplace, hat, hstep⟩ :=
      exists_of_mem_placedChildSteps _ [] 0 layout.children 1 hbelow hconfigures
    refine ⟨pane, ?_, hstep⟩
    rw [hplace, List.nil_append, Nat.zero_add, root, Node.at?, hchild]
    exact hat
  · obtain ⟨step, hstep, rfl⟩ := List.mem_map.mp hfocus
    rw [focusCommands, Option.mem_toList] at hstep
    obtain ⟨title, -, rfl⟩ := Option.map_eq_some_iff.mp hstep
    cases hconfigures

end Layout

end TmuxLayout
