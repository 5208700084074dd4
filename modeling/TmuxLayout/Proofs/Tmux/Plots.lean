import TmuxLayout.Proofs.Layout.Places
import TmuxLayout.Proofs.Tmux.Window

/-!
# Panes that remember their space

A window says which panes there are and what they were told, but not what the panes
are for. Here every pane remembers which node's space it holds, and which leaf it
got its title for. Steps come with the node that they are about: the new window
holds the space of the root; where a container with children starts, its first pane
takes the space of child zero, and the pane of its split `i` that of child `i`.

- `Plot`: a pane with its space and the leaf of its title.
- `PlacedStep`: a step with the place of its node and the number of children there.
- `PlacedStep.run`, `runPlaced`: what steps do to panes that remember.
- `map_runPlaced`: without the memory, the panes are those of the steps alone.
- `Passes`: a run of steps with a property of each of them in the window where it is
  done.
-/

namespace TmuxLayout

/-! ## Windows -/

namespace Window

variable {α β : Type}

/-- The window with every pane changed. -/
def map (f : α → β) (w : Window α) : Window β :=
  ⟨w.before.map f, f w.active, w.after.map f⟩

theorem panes_map (f : α → β) (w : Window α) : (w.map f).panes = w.panes.map f := by
  rw [panes, panes, List.map_append, List.map_cons]
  rfl

theorem map_split (f : α → β) (w : Window α) (pane : α) :
    (w.split pane).map f = (w.map f).split (f pane) := by
  rw [split, map, List.map_append]
  rfl

/-- Which pane is selected does not depend on what the panes are. -/
theorem map_select? (f : α → β) (w : Window α) (index : Nat) :
    (w.select? index).map (map f) = (w.map f).select? index := by
  cases index with
  | zero => rfl
  | succ index =>
    rw [select?, select?, panes_map, ← List.map_drop, ← List.map_take]
    cases w.panes.drop index with
    | nil => rfl
    | cons pane panes => rfl

/-- Focus finds the same position for panes that are told apart in the same way. -/
theorem map_focus (f : α → β) (w : Window α) (wanted : β → Bool) :
    (w.focus (wanted ∘ f)).map f = (w.map f).focus wanted := by
  rw [focus, focus, panes_map, List.findIdx?_map]
  cases w.panes.findIdx? (wanted ∘ f) with
  | none => rfl
  | some index =>
    rw [Option.bind_some, Option.bind_some, ← map_select?]
    cases w.select? (index + 1) with
    | none => rfl
    | some v => rfl

end Window

/-! ## Panes -/

/-- A pane that remembers the node whose space it holds, and the leaf that its title
was for. -/
structure Plot where
  terminal : Terminal
  space : Place
  titledFor : Option Place
deriving Repr, DecidableEq

namespace Plot

/-- A pane that was told nothing. -/
def bare (space : Place) : Plot := ⟨.blank, space, none⟩

/-- The pane with a title for a leaf. -/
def titled (leaf : Place) (title : String) (plot : Plot) : Plot :=
  { plot with terminal := plot.terminal.titled title, titledFor := some leaf }

/-- The pane with keys typed into it. -/
def typed (keys : String) (plot : Plot) : Plot :=
  { plot with terminal := plot.terminal.typed keys }

/-- The pane with another space. -/
def moved (change : Place → Place) (plot : Plot) : Plot :=
  { plot with space := change plot.space }

end Plot

/-! ## Steps -/

/-- A step for a node: the place of the node, and the number of its children. -/
structure PlacedStep where
  place : Place
  childCount : Nat
  step : Step

namespace PlacedStep

/-- The space of the active pane after a step, when it held a space. A container
without children takes none. -/
def spaceAfter (placed : PlacedStep) (held : Place) : Place :=
  match placed.step.purpose with
  | .createWindow | .enterContainer _ =>
    if placed.childCount = 0 then held else placed.place ++ [0]
  | .split _ number => placed.place ++ [number]
  | .selectPane _ | .setTitle _ | .run _ | .focus _ => held

/-- What the command of a step does; spaces are given out after it. -/
def obey (placed : PlacedStep) (w : Window Plot) : TmuxCommand → Except TmuxFault (Window Plot)
  | .newWindow _ _ => .ok (.single (.bare []))
  | .splitWindow _ _ _ => .ok (w.split (.bare placed.place))
  | .selectPane target =>
    match w.select? target with
    | some v => .ok v
    | none => .error (.noPane target)
  | .setTitle title => .ok (w.modify (.titled placed.place title))
  | .sendKeys keys => .ok (w.modify (.typed keys))
  | .focusTitle title => .ok (w.focus (Terminal.hasTitle title ∘ Plot.terminal))

/-- What a step makes of the current window. -/
def run (w : Window Plot) (placed : PlacedStep) : Except TmuxFault (Window Plot) :=
  (placed.obey w placed.step.command).map (·.modify (.moved placed.spaceAfter))

/-- Without the memory of panes, a step does what its command does. -/
theorem map_run (w : Window Plot) (placed : PlacedStep) :
    (placed.run w).map (Window.map Plot.terminal) =
      placed.step.command.run (w.map Plot.terminal) := by
  -- giving out spaces changes nothing that a pane was told
  have hmoved : ∀ v : Window Plot,
      (v.modify (.moved placed.spaceAfter)).map Plot.terminal = v.map Plot.terminal := by
    intro v
    rfl
  have hobey : (placed.obey w placed.step.command).map (Window.map Plot.terminal) =
      placed.step.command.run (w.map Plot.terminal) := by
    cases placed.step.command with
    | newWindow name directory => rfl
    | splitWindow direction percent directory =>
      exact congrArg Except.ok (Window.map_split _ w _)
    | selectPane target =>
      rw [obey, TmuxCommand.run, ← Window.map_select?]
      cases w.select? target with
      | none => rfl
      | some v => rfl
    | setTitle title => rfl
    | sendKeys keys => rfl
    | focusTitle title => exact congrArg Except.ok (Window.map_focus _ w _)
  rw [run, ← hobey]
  cases placed.obey w placed.step.command with
  | error fault => rfl
  | ok v => exact congrArg Except.ok (hmoved v)

end PlacedStep

/-- What steps make of the current window, one after the other. -/
def runPlaced (w : Window Plot) (steps : List PlacedStep) : Except TmuxFault (Window Plot) :=
  steps.foldlM PlacedStep.run w

/-- Without the memory of panes, steps do what their commands do. -/
theorem map_runPlaced (w : Window Plot) (steps : List PlacedStep) :
    (runPlaced w steps).map (Window.map Plot.terminal) =
      runSteps (w.map Plot.terminal) (steps.map PlacedStep.step) := by
  induction steps generalizing w with
  | nil => rfl
  | cons placed steps ih =>
    rw [runPlaced, List.foldlM_cons, List.map_cons, runSteps, List.foldlM_cons,
      ← PlacedStep.map_run]
    cases placed.run w with
    | error fault => rfl
    | ok v => exact ih v

/-- Without the memory of panes, a run that succeeds is a run of the steps alone. -/
theorem runSteps_of_runPlaced {w v : Window Plot} {steps : List PlacedStep}
    (h : runPlaced w steps = .ok v) :
    runSteps (w.map Plot.terminal) (steps.map PlacedStep.step) = .ok (v.map Plot.terminal) := by
  rw [← map_runPlaced, h]
  rfl

/-! ## Properties along a run -/

/-- Steps lead from a window to a window, and each of them has a property in the
window where it is done. -/
inductive Passes (P : Window Plot → PlacedStep → Prop) :
    Window Plot → List PlacedStep → Window Plot → Prop
  | nil (w : Window Plot) : Passes P w [] w
  | cons {w u v : Window Plot} {placed : PlacedStep} {steps : List PlacedStep} :
    P w placed → placed.run w = .ok u → Passes P u steps v → Passes P w (placed :: steps) v

namespace Passes

variable {P Q : Window Plot → PlacedStep → Prop} {w u v : Window Plot}
variable {steps more : List PlacedStep}

theorem append (h : Passes P w steps u) (hmore : Passes P u more v) :
    Passes P w (steps ++ more) v := by
  induction h with
  | nil => exact hmore
  | cons hfirst hrun _ ih => exact .cons hfirst hrun (ih hmore)

theorem imp (himp : ∀ w placed, P w placed → Q w placed) (h : Passes P w steps v) :
    Passes Q w steps v := by
  induction h with
  | nil => exact .nil _
  | cons hfirst hrun _ ih => exact .cons (himp _ _ hfirst) hrun ih

/-- A run with a property is a run. -/
theorem runPlaced_eq (h : Passes P w steps v) : runPlaced w steps = .ok v := by
  induction h with
  | nil => rfl
  | cons _ hrun _ ih =>
    rw [runPlaced, List.foldlM_cons, hrun]
    exact ih

/-- A step of a run is done in the window that those before it lead to. -/
theorem exists_runPlaced {before after : List PlacedStep} {placed : PlacedStep}
    (h : Passes P w (before ++ placed :: after) v) :
    ∃ u, runPlaced w before = .ok u ∧ P u placed := by
  induction before generalizing w with
  | nil =>
    cases h with
    | cons hfirst _ _ => exact ⟨w, rfl, hfirst⟩
  | cons first before ih =>
    cases h with
    | cons _ hrun hrest =>
      obtain ⟨u, hu, hplaced⟩ := ih hrest
      refine ⟨u, ?_, hplaced⟩
      rw [runPlaced, List.foldlM_cons, hrun]
      exact hu

end Passes

end TmuxLayout
