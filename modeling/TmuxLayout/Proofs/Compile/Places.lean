import Mathlib.Data.List.Basic
import TmuxLayout.Proofs.Compile.Commands
import TmuxLayout.Proofs.Except
import TmuxLayout.Proofs.Layout.Places

/-!
# Commands by place (SPEC_FULL.md §4.2)

Compiling hands the number of the next pane from node to node. The same commands
come out when nothing is handed on: each node has a block of its own, which is
about the pane whose number is one more than the number of leaves before the
node.

- `Frame.splitBlock`, `Pane.block`, `Node.block`: the steps of one node.
- `Pane.configuration`: the steps of a leaf behind the one that selects its pane.
- `Node.commands_eq_flatMap`: the commands of a tree are the blocks of its nodes.
- `Layout.compile_by_place`: the steps of a layout, and the number behind its last
  pane.
-/

namespace TmuxLayout

/-! ## Blocks -/

/-- The splits of a container: one for each child but the first, all in its own
direction. -/
def Frame.splitBlock (directory : String) (frame : Frame) (childCount : Nat) : List Step :=
  (List.range (childCount - 1)).map fun i =>
    let percent := roundHalfUp (newPaneShare (weightsOf frame.ratio childCount) (i + 1))
    ⟨.splitWindow frame.direction percent directory, .split frame.direction (i + 1)⟩

/-- The steps that give a leaf its title and its command, where it has any. -/
def Pane.configuration (pane : Pane) : List Step :=
  (match pane.name with
    | some name => if name = "" then [] else [⟨.setTitle name, .setTitle name⟩]
    | none => []) ++
  (match pane.command with
    | some keys => if keys = "" then [] else [⟨.sendKeys keys, .run keys⟩]
    | none => [])

/-- The steps of a leaf: its pane is selected, and gets a title and keys. -/
def Pane.block (pane : Pane) (number : Nat) : List Step :=
  ⟨.selectPane number, .selectPane number⟩ :: pane.configuration

/-- The steps of a node, those below it apart. -/
def Node.block (directory : String) : Node → (number : Nat) → List Step
  | .pane p, number => p.block number
  | .container frame children, number =>
    ⟨.selectPane number, .enterContainer number⟩ :: frame.splitBlock directory children.length

/-- The splits of a container, one for each number. -/
theorem splits_eq_splitBlock (directory : String) (frame : Frame) (childCount : Nat) :
    splits directory frame childCount = frame.splitBlock directory childCount := by
  rw [splits, splitPercentages, List.zipIdx_map, List.map_map, Frame.splitBlock]
  refine List.ext_getElem (by simp) fun i h h' => ?_
  simp

/-- What configures a leaf is its title and what it starts. -/
theorem Pane.configuration_eq (pane : Pane) :
    pane.configuration =
      (pane.title?.map fun title => (⟨.setTitle title, .setTitle title⟩ : Step)).toList ++
        (pane.startupCommand?.map fun keys => (⟨.sendKeys keys, .run keys⟩ : Step)).toList := by
  have htext : ∀ (text : Option String) (step : String → Step),
      ((text.filter (!·.isEmpty)).map step).toList =
        match text with
        | some text => if text = "" then [] else [step text]
        | none => [] := by
    intro text step
    cases text with
    | none => rfl
    | some text =>
      by_cases hempty : text = ""
      · simp [hempty]
      · simp [hempty, Option.filter_some]
  rw [title?, startupCommand?, htext, htext]
  rfl

/-- The steps for a pane are its block. -/
theorem paneSteps_eq_block (pane : Pane) (number : Nat) :
    paneSteps pane number = pane.block number := by
  rw [paneSteps, Pane.block, pane.configuration_eq]

/-! ## Trees -/

mutual

/-- The commands of a tree are the blocks of its nodes, each about the pane behind
as many leaves as stand before the node. -/
theorem Node.commands_eq_flatMap (directory : String) (node : Node) (index : Nat) :
    node.commands directory index =
      node.placed.flatMap fun (place, other) =>
        other.block directory (index + leavesBefore node.placed place) := by
  cases node with
  | pane pane =>
    rw [Node.commands, paneSteps_eq_block, Node.placed, List.flatMap_singleton]
    dsimp only
    rw [leavesBefore_nil]
    rfl
  | container frame children =>
    rw [Node.commands, splits_eq_splitBlock, childCommands_eq_flatMap directory 0 children index,
      Node.placed, List.flatMap_cons]
    dsimp only
    rw [leavesBefore_nil]
    -- the container is no leaf, so it counts for none of the nodes below it
    rfl

theorem childCommands_eq_flatMap (directory : String) (position : Nat) (nodes : List Node)
    (index : Nat) :
    childCommands directory nodes index =
      (Node.placedFrom position nodes).flatMap fun (place, other) =>
        other.block directory (index + leavesBefore (Node.placedFrom position nodes) place) := by
  cases nodes with
  | nil => rfl
  | cons node nodes =>
    have hfirst : node.commands directory index =
        (node.placed.map fun (place, other) => (position :: place, other)).flatMap
          fun (place, other) => other.block directory
            (index + leavesBefore (Node.placedFrom position (node :: nodes)) place) := by
      rw [Node.commands_eq_flatMap directory node index, List.flatMap_map]
      refine List.flatMap_congr fun ⟨place, other⟩ _ => ?_
      dsimp only
      rw [Node.leavesBefore_under]
    have hrest : childCommands directory nodes (index + node.paneCount) =
        (Node.placedFrom (position + 1) nodes).flatMap fun (place, other) =>
          other.block directory
            (index + leavesBefore (Node.placedFrom position (node :: nodes)) place) := by
      rw [childCommands_eq_flatMap directory (position + 1) nodes]
      refine List.flatMap_congr fun ⟨place, other⟩ hmem => ?_
      dsimp only
      rw [Node.leavesBefore_behind position node nodes hmem, Nat.add_assoc]
    rw [childCommands, hfirst, hrest, ← List.flatMap_append]
    rfl

end

/-! ## Layouts -/

namespace Layout

/-- The nodes below the root with their places. -/
def placedBelow (layout : Layout) : List (Place × Node) :=
  Node.placedFrom 0 layout.children

/-- **Panes are numbered by place.** The steps of a compiled layout are the new
window, the splits of the root, the block of each node below the root, about the
pane with the number of leaves before the node and one, and a step for focus, if
there is one. The number that compiling hands on has gone up by the number of
panes behind any row of children, so behind the last pane it is one more than
the number of panes. -/
theorem compile_by_place {layout : Layout} {directory window : Option String}
    {steps : List Step} (h : layout.compile directory window = .ok steps) :
    steps =
      [⟨.newWindow window (directory.getD currentPath), .createWindow⟩] ++
        layout.frame.splitBlock (directory.getD currentPath) layout.children.length ++
        (layout.placedBelow.flatMap fun (place, node) =>
          node.block (directory.getD currentPath) (1 + leavesBefore layout.placedBelow place)) ++
        (layout.root.focusTitle?.map fun title =>
          (⟨.focusTitle title, .focus title⟩ : Step)).toList ∧
    (∀ directory path frame children index rest next,
      childSteps directory path 0 children index = .ok (rest, next) →
        next = index + (Node.container frame children).paneCount) ∧
    ∃ next, layout.compileFrom directory window = .ok (steps, next) ∧
      next - 1 = layout.paneCount := by
  refine ⟨?_, ?_, ?_⟩
  · rw [eq_commands_of_compile h, commands, buildCommands, splits_eq_splitBlock,
      childCommands_eq_flatMap _ 0]
    rfl
  · intro directory path frame children index rest next hchildren
    rw [childSteps_eq] at hchildren
    obtain ⟨-, -, heq⟩ := Except.map_eq_ok_iff.mp hchildren
    cases heq
    rw [Node.paneCount]
  · obtain ⟨⟨steps', next⟩, hcompile, rfl⟩ := Except.map_eq_ok_iff.mp h
    refine ⟨next, hcompile, ?_⟩
    rw [compileFrom_eq] at hcompile
    obtain ⟨-, -, heq⟩ := Except.map_eq_ok_iff.mp hcompile
    cases heq
    omega

/-- A leaf behind an empty container and one with two leaves has the third pane. -/
theorem compile_by_place_nested :
    let layout : Layout := ⟨none, .plain .horizontal,
      [.container (.plain .vertical) [],
        .container (.plain .vertical) [.pane .blank, .pane (.named "logs")],
        .pane (Pane.blank.withCommand "top")]⟩
    ∃ steps, layout.compile none none = .ok steps ∧
      leavesBefore layout.placedBelow [2] = 2 ∧
      ∃ next, layout.compileFrom none none = .ok (steps, next) ∧ next - 1 = 3 := by
  intro layout
  have hcompile : layout.compile none none = .ok _ := rfl
  obtain ⟨-, -, hnext⟩ := compile_by_place hcompile
  exact ⟨_, hcompile, by decide, hnext⟩

end Layout

end TmuxLayout
