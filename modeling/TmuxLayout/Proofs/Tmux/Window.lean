import TmuxLayout.Compile
import TmuxLayout.Proofs.Except

/-!
# Panes of a tmux window

What tmux does with commands, as far as panes, titles and keys go. A window is a
row of panes with one of them active, so it always has a pane, and the active
pane is always one of the row. Sizes and directions of splits are left out.

- `Window`: a row of panes; `panes` forgets which one is active, `pane?` finds a
  pane by its index. Indices count from one.
- `Window.split`, `Window.select?`, `Window.modify`, `Window.modifyAt?`: a new pane
  behind the active one, another active pane, a change to the active pane, a
  change to any pane.
- `Terminal`: what a pane was told: its title, and the keys typed into it.
- `TmuxCommand.run`, `runSteps`: what a command and a row of steps do. Only
  selecting a pane that is not there fails.
-/

namespace TmuxLayout

/-- A row of panes with an active one among them. -/
structure Window (α : Type) where
  before : List α
  active : α
  after : List α
deriving Repr, DecidableEq

namespace Window

variable {α : Type}

/-- A window with one pane. -/
def single (pane : α) : Window α := ⟨[], pane, []⟩

/-- The panes in the order of their indices. -/
def panes (w : Window α) : List α :=
  w.before ++ w.active :: w.after

/-- The pane at an index. -/
def pane? (w : Window α) : (index : Nat) → Option α
  | 0 => none
  | index + 1 => w.panes[index]?

/-- The index of the active pane. -/
def activeIndex (w : Window α) : Nat :=
  w.before.length + 1

/-- A new pane directly behind the active one; it becomes active. -/
def split (w : Window α) (pane : α) : Window α :=
  ⟨w.before ++ [w.active], pane, w.after⟩

/-- Makes the pane at an index active, if there is one. -/
def select? (w : Window α) : (index : Nat) → Option (Window α)
  | 0 => none
  | index + 1 =>
    match w.panes.drop index with
    | [] => none
    | pane :: panes => some ⟨w.panes.take index, pane, panes⟩

/-- Changes the active pane. -/
def modify (w : Window α) (change : α → α) : Window α :=
  { w with active := change w.active }

/-- Changes the pane at an index, if there is one; the active pane stays. -/
def modifyAt? (w : Window α) (index : Nat) (change : α → α) : Option (Window α) :=
  if index = w.activeIndex then some (w.modify change)
  else if index = 0 ∨ w.panes.length < index then none
  else if index < w.activeIndex then
    some { w with before := w.before.modify (index - 1) change }
  else some { w with after := w.after.modify (index - w.activeIndex - 1) change }

/-- Makes the first pane with a property active; without one, nothing happens. -/
def focus (w : Window α) (wanted : α → Bool) : Window α :=
  ((w.panes.findIdx? wanted).bind fun index => w.select? (index + 1)).getD w

/-- Selecting finds the pane behind as many panes as stand before it. -/
theorem select?_of_panes {w : Window α} {before after : List α} {pane : α}
    (h : w.panes = before ++ pane :: after) :
    w.select? (before.length + 1) = some ⟨before, pane, after⟩ := by
  rw [select?, h, List.drop_left, List.take_left]

/-- The active pane is found at its index. -/
theorem modifyAt?_activeIndex (w : Window α) (change : α → α) :
    w.modifyAt? w.activeIndex change = some (w.modify change) := by
  rw [modifyAt?, if_pos rfl]

/-- Selecting fails exactly where there is no pane. -/
theorem select?_eq_none_iff (w : Window α) (index : Nat) :
    w.select? index = none ↔ w.pane? index = none := by
  cases index with
  | zero => exact ⟨fun _ => rfl, fun _ => rfl⟩
  | succ index =>
    rw [select?, pane?, List.getElem?_eq_none_iff, ← List.drop_eq_nil_iff]
    cases w.panes.drop index with
    | nil => simp
    | cons pane panes => simp

/-- Selecting makes the pane at the index active. -/
theorem activeIndex_of_select? {w v : Window α} {index : Nat} (h : w.select? index = some v) :
    v.activeIndex = index := by
  cases index with
  | zero => cases h
  | succ index =>
    rw [select?] at h
    cases hdrop : w.panes.drop index with
    | nil =>
      rw [hdrop] at h
      cases h
    | cons pane panes =>
      -- there is something behind, so no fewer panes are taken than asked for
      have hlt : index < w.panes.length := by
        refine Nat.lt_of_not_le fun hle => ?_
        rw [List.drop_eq_nil_iff.mpr hle] at hdrop
        cases hdrop
      rw [hdrop] at h
      cases h
      rw [activeIndex, List.length_take, Nat.min_eq_left (Nat.le_of_lt hlt)]

/-- Selecting changes no pane. -/
theorem panes_of_select? {w v : Window α} {index : Nat} (h : w.select? index = some v) :
    v.panes = w.panes := by
  cases index with
  | zero => cases h
  | succ index =>
    rw [select?] at h
    cases hdrop : w.panes.drop index with
    | nil =>
      rw [hdrop] at h
      cases h
    | cons pane panes =>
      rw [hdrop] at h
      cases h
      rw [Window.panes, ← hdrop, List.take_append_drop]

@[simp] theorem panes_focus (w : Window α) (wanted : α → Bool) :
    (w.focus wanted).panes = w.panes := by
  rw [focus]
  cases hfound : (w.panes.findIdx? wanted).bind fun index => w.select? (index + 1) with
  | none => rfl
  | some v =>
    obtain ⟨index, -, hselect⟩ := Option.bind_eq_some_iff.mp hfound
    exact panes_of_select? hselect

end Window

/-! ## Commands -/

/-- What a pane was told. -/
structure Terminal where
  title : Option String
  /-- The keys that were typed, each row of them followed by Enter. -/
  received : List String
deriving Repr, DecidableEq

namespace Terminal

/-- A pane that was told nothing. -/
def blank : Terminal := ⟨none, []⟩

/-- The pane with a title. -/
def titled (title : String) (terminal : Terminal) : Terminal :=
  { terminal with title := some title }

/-- The pane with keys typed into it. -/
def typed (keys : String) (terminal : Terminal) : Terminal :=
  { terminal with received := terminal.received ++ [keys] }

/-- Whether the pane has a title; a pane that never got one has none. -/
def hasTitle (title : String) (terminal : Terminal) : Bool :=
  terminal.title = some title

end Terminal

/-- Why tmux refuses a command. -/
inductive TmuxFault where
  | noPane (index : Nat)
deriving Repr, DecidableEq

/-- What a command makes of the current window. -/
def TmuxCommand.run (w : Window Terminal) : TmuxCommand → Except TmuxFault (Window Terminal)
  | newWindow _ _ => .ok (.single .blank)
  | splitWindow _ _ _ => .ok (w.split .blank)
  | selectPane target =>
    match w.select? target with
    | some v => .ok v
    | none => .error (.noPane target)
  | setTitle title => .ok (w.modify (.titled title))
  | sendKeys keys => .ok (w.modify (.typed keys))
  | focusTitle title => .ok (w.focus (Terminal.hasTitle title))

/-- What steps make of the current window, one after the other. -/
def runSteps (w : Window Terminal) (steps : List Step) : Except TmuxFault (Window Terminal) :=
  steps.foldlM (fun w step => step.command.run w) w

/-- Steps go on where those before them end. -/
theorem runSteps_append {w v : Window Terminal} {steps : List Step} (rest : List Step)
    (h : runSteps w steps = .ok v) : runSteps w (steps ++ rest) = runSteps v rest := by
  rw [runSteps, List.foldlM_append]
  show (runSteps w steps).bind (fun v => runSteps v rest) = runSteps v rest
  rw [h]
  rfl

/-- The first of several steps. -/
theorem runSteps_cons {w v : Window Terminal} {step : Step} (rest : List Step)
    (h : step.command.run w = .ok v) : runSteps w (step :: rest) = runSteps v rest := by
  rw [runSteps, List.foldlM_cons, h]
  rfl

/-- Selecting the pane behind as many panes as stand before it succeeds. -/
theorem run_selectPane {w : Window Terminal} {before after : List Terminal} {pane : Terminal}
    (h : w.panes = before ++ pane :: after) :
    (TmuxCommand.selectPane (before.length + 1)).run w = .ok ⟨before, pane, after⟩ := by
  rw [TmuxCommand.run, Window.select?_of_panes h]

theorem exists_of_runSteps_cons {w v : Window Terminal} {step : Step} {steps : List Step}
    (h : runSteps w (step :: steps) = .ok v) :
    ∃ u, step.command.run w = .ok u ∧ runSteps u steps = .ok v := by
  rw [runSteps, List.foldlM_cons] at h
  exact Except.bind_eq_ok_iff.mp h

theorem exists_of_runSteps_append {w v : Window Terminal} {steps more : List Step}
    (h : runSteps w (steps ++ more) = .ok v) :
    ∃ u, runSteps w steps = .ok u ∧ runSteps u more = .ok v := by
  rw [runSteps, List.foldlM_append] at h
  exact Except.bind_eq_ok_iff.mp h

theorem select?_of_run_selectPane {w v : Window Terminal} {target : Nat}
    (h : (TmuxCommand.selectPane target).run w = .ok v) : w.select? target = some v := by
  rw [TmuxCommand.run] at h
  cases hselect : w.select? target with
  | none =>
    rw [hselect] at h
    cases h
  | some u =>
    rw [hselect] at h
    cases h
    rfl

theorem panes_of_run_selectPane {w v : Window Terminal} {target : Nat}
    (h : (TmuxCommand.selectPane target).run w = .ok v) : v.panes = w.panes :=
  Window.panes_of_select? (select?_of_run_selectPane h)

theorem activeIndex_of_run_selectPane {w v : Window Terminal} {target : Nat}
    (h : (TmuxCommand.selectPane target).run w = .ok v) : v.activeIndex = target :=
  Window.activeIndex_of_select? (select?_of_run_selectPane h)

/-- Splits put as many blank panes behind the active one as there are splits. -/
theorem runSteps_splitWindow (w : Window Terminal) {steps : List Step}
    (h : ∀ step ∈ steps, ∃ direction percent directory,
      step.command = .splitWindow direction percent directory) :
    ∃ v, runSteps w steps = .ok v ∧
      v.panes = w.before ++ w.active :: (List.replicate steps.length .blank ++ w.after) := by
  induction steps generalizing w with
  | nil => exact ⟨w, rfl, rfl⟩
  | cons step steps ih =>
    obtain ⟨direction, percent, directory, hstep⟩ := h step List.mem_cons_self
    have hrun : step.command.run w = .ok (w.split .blank) := by
      rw [hstep]
      rfl
    obtain ⟨v, hv, hpanes⟩ :=
      ih (w.split .blank) fun other hother => h other (List.mem_cons_of_mem _ hother)
    refine ⟨v, (runSteps_cons steps hrun).trans hv, ?_⟩
    rw [hpanes, Window.split, List.append_assoc, List.length_cons, List.replicate_succ]
    rfl

end TmuxLayout
