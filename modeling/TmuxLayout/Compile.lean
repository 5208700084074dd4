import TmuxLayout.Layout.Validity
import TmuxLayout.Tmux

/-!
# From a layout to commands (SPEC_FULL.md §4.2)

Panes are numbered from one in a single walk, from the root down and from left
to right. A container gets all of its splits before its children are visited, so
the panes that they are about exist by then.

- `Purpose`: what a command is for, and its note for people.
- `Step`: a command with its purpose (`CompiledCommand`).
- `splits`: the splits of a container.
- `Node.steps`, `childSteps`: the commands for a node whose first pane has a
  number, and the number of the first pane behind it.
- `Layout.compile`: the commands for a layout (`compile`).
- `joinLines`: the lines of commands on one line (`commands_to_string`).
-/

namespace TmuxLayout

/-! ## Steps -/

/-- What a command is for. -/
inductive Purpose where
  | createWindow
  /-- The split with a number, counted from one, in a container. -/
  | split (direction : Direction) (number : Nat)
  | selectPane (index : Nat)
  | enterContainer (index : Nat)
  | setTitle (title : String)
  | run (keys : String)
  | focus (title : String)
deriving Repr, DecidableEq

/-- The note for people. -/
def Purpose.description : Purpose → String
  | createWindow => "Create new window"
  | split direction number =>
    "Split " ++ direction.name ++ " for pane " ++ toString (number + 1)
  | selectPane index => "Select pane " ++ toString index
  | enterContainer index => "Navigate to container start pane " ++ toString index
  | setTitle title => "Set title: " ++ title
  | run keys => "Run: " ++ keys
  | focus title => "Focus on pane with title: " ++ title

/-- A command with its purpose. -/
structure Step where
  command : TmuxCommand
  purpose : Purpose

namespace Step

/-- The line for the shell. -/
def text (step : Step) : String := step.command.text

/-- The note for people. -/
def description (step : Step) : String := step.purpose.description

end Step

/-! ## Containers -/

/-- The splits of a container, which begin at its first pane. -/
def splits (directory : String) (frame : Frame) (childCount : Nat) : List Step :=
  (splitPercentages frame.ratio childCount).zipIdx.map fun (percent, i) =>
    ⟨.splitWindow frame.direction percent directory, .split frame.direction (i + 1)⟩

/-- The commands for a pane with a number: it is selected, and then gets its
title and its command. -/
def paneSteps (pane : Pane) (index : Nat) : List Step :=
  ⟨.selectPane index, .selectPane index⟩ ::
    ((pane.title?.map fun title => (⟨.setTitle title, .setTitle title⟩ : Step)).toList ++
      (pane.startupCommand?.map fun keys => (⟨.sendKeys keys, .run keys⟩ : Step)).toList)

mutual

/-- The commands for a node at a path whose first pane has the number `index`,
and the number of the first pane behind it. -/
def Node.steps (directory path : String) :
    Node → (index : Nat) → Except Layout.Fault (List Step × Nat)
  | .pane pane, index => .ok (paneSteps pane index, index + 1)
  | .container frame children, index => do
    checkRatio frame children.length path
    let (steps, next) ← childSteps directory path 0 children index
    return (⟨.selectPane index, .enterContainer index⟩ ::
      splits directory frame children.length ++ steps, next)

/-- The commands for children, counted from `position`, of the container at a
path; the first pane of the first of them has the number `index`. -/
def childSteps (directory path : String) (position : Nat) :
    List Node → (index : Nat) → Except Layout.Fault (List Step × Nat)
  | [], index => .ok ([], index)
  | node :: nodes, index => do
    let (steps, next) ← node.steps directory (childPath path position) index
    let (others, last) ← childSteps directory path (position + 1) nodes next
    return (steps ++ others, last)

end

/-! ## Layouts -/

/-- The command that selects a pane by its title. -/
def focusStep (title : String) : Step :=
  ⟨.focusTitle title, .focus title⟩

/-- The commands for a layout, and the number behind its last pane. The new
window is the first pane of the root. -/
def Layout.compileFrom (layout : Layout) (directory window : Option String) :
    Except Layout.Fault (List Step × Nat) := do
  let directory := directory.getD currentPath
  checkRatio layout.frame layout.children.length rootPath
  let (steps, next) ← childSteps directory rootPath 0 layout.children 1
  return (⟨.newWindow window directory, .createWindow⟩ ::
    splits directory layout.frame layout.children.length ++ steps ++
      (layout.root.focusTitle?.map focusStep).toList, next)

/-- The commands for a layout. The directory is the one of the new window and of
all splits, or else that of the active pane; the window may get a name. -/
def Layout.compile (layout : Layout) (directory window : Option String) :
    Except Layout.Fault (List Step) :=
  (layout.compileFrom directory window).map (·.1)

/-- The lines of commands on one line. -/
def joinLines (lines : List String) : String :=
  separator.intercalate lines

end TmuxLayout
