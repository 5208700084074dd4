import TmuxLayout.Batch
import TmuxLayout.Proofs.Compile.Commands
import TmuxLayout.Proofs.Layout.Leaves
import TmuxLayout.Proofs.Text.Numeral

/-!
# Keys reach the pane they are for (SPEC_FULL.md §13)

On one line the keys of a pane are aimed by the text of the commands before
them, and that text holds names, commands and directories that may look like
commands themselves. This module proves that none of them misleads the aim.

- `startupsFrom`, `Layout.startups`: which pane gets which command.
- `Aimed`: the pieces of the line, one for each step, each command of a pane at
  that pane.
- `Batch.piece`, `Batch.remember`: what one line becomes, and which pane is
  remembered behind it.
- `Aims`: whatever pane is remembered before the steps, they become aimed pieces.
  The commands of a node have this property since each leaf selects its pane,
  and only gives it a title, before its keys.
- `Layout.batchLine_of_compile`: the line of a compiled layout.
-/

namespace TmuxLayout

/-! ## What is aimed at what -/

/-- The commands of panes, each with the number of its pane; the first pane has
the number `index`. -/
def startupsFrom (index : Nat) (panes : List Pane) : List (Nat × String) :=
  (panes.zipIdx index).filterMap fun (pane, number) =>
    (pane.command.filter (· ≠ "")).map fun keys => (number, keys)

/-- The commands of the leaves of a layout, each with the number of its leaf. -/
def Layout.startups (layout : Layout) : List (Nat × String) :=
  startupsFrom 1 layout.leaves

theorem startupsFrom_append (index : Nat) (panes others : List Pane) :
    startupsFrom index (panes ++ others) =
      startupsFrom index panes ++ startupsFrom (index + panes.length) others := by
  rw [startupsFrom, List.zipIdx_append, List.filterMap_append]
  rfl

/-- One leaf starts its command, if it has one, in its own pane. -/
theorem startupsFrom_singleton (index : Nat) (pane : Pane) :
    startupsFrom index [pane] =
      (pane.startupCommand?.map fun keys => (index, keys)).toList := by
  rw [startupsFrom, List.zipIdx_singleton, List.filterMap_cons, Pane.startupCommand?_eq]
  dsimp only
  cases pane.command.filter (· ≠ "") with
  | none => rfl
  | some keys => rfl

/-- The command that types keys into the pane with a number. -/
def aimedKeys (number : Nat) (keys : String) : String :=
  "send-keys -t " ++ toString number ++ " \"" ++ keys ++ "\" Enter"

/-- Keys that are aimed stand in quotes as keys do. -/
theorem aimedKeys_eq (number : Nat) (keys : String) :
    aimedKeys number keys =
      "send-keys -t " ++ toString number ++ " " ++ TmuxCommand.quoted keys ++ " Enter" := by
  unfold aimedKeys TmuxCommand.quoted
  apply String.toList_inj.mp
  simp only [String.toList_append, List.append_assoc]
  rfl

/-- The pieces of steps on one line: keys are aimed at their panes, and all other
steps have their text without the leading `tmux`. -/
inductive Aimed : List (Nat × String) → List Step → List String → Prop where
  | nil : Aimed [] [] []
  -- the next keys go to the pane that comes next among those with a command
  | keys {startups : List (Nat × String)} {steps : List Step} {pieces : List String}
      (number : Nat) (keys : String) (purpose : Purpose) :
      Aimed startups steps pieces →
      Aimed ((number, keys) :: startups) (⟨.sendKeys keys, purpose⟩ :: steps)
        (aimedKeys number keys :: pieces)
  | other {startups : List (Nat × String)} {steps : List Step} {pieces : List String}
      {step : Step} {piece : String} :
      (∀ keys, step.command ≠ .sendKeys keys) → step.text = "tmux " ++ piece →
      Aimed startups steps pieces → Aimed startups (step :: steps) (piece :: pieces)

theorem Aimed.append {startups others : List (Nat × String)} {steps more : List Step}
    {pieces rest : List String} (h : Aimed startups steps pieces)
    (hmore : Aimed others more rest) :
    Aimed (startups ++ others) (steps ++ more) (pieces ++ rest) := by
  induction h with
  | nil => exact hmore
  | keys number keys purpose _ ih => exact .keys number keys purpose ih
  | other hkeys htext _ ih => exact .other hkeys htext ih

/-! ## One line after the other -/

namespace Batch

/-- What a line becomes when a pane is remembered. -/
def piece (target : Option (List Char)) (line : List Char) : List Char :=
  match Text.after? sendKeysWord (withoutTmux line) with
  | some keys => sendKeysWord ++ " -t ".toList ++ target.getD defaultPane ++ keys
  | none => withoutTmux line

/-- The pane that is remembered behind a line. -/
def remember (target : Option (List Char)) (line : List Char) : Option (List Char) :=
  match Text.after? sendKeysWord (withoutTmux line) with
  | some _ => target
  | none => (selectedPane? (withoutTmux line)).or target

theorem pieces_cons (target : Option (List Char)) (line : List Char)
    (lines : List (List Char)) :
    pieces target (line :: lines) =
      piece target line :: pieces (remember target line) lines := by
  rw [pieces, piece, remember]
  cases Text.after? sendKeysWord (withoutTmux line) with
  | none => rfl
  | some keys => rfl

/-- What lines selected is remembered for the lines behind them. -/
theorem pieces_append (target : Option (List Char)) (lines others : List (List Char)) :
    pieces target (lines ++ others) =
      pieces target lines ++ pieces (lines.foldl remember target) others := by
  induction lines generalizing target with
  | nil => rfl
  | cons line lines ih =>
    rw [List.cons_append, pieces_cons, pieces_cons, ih (remember target line)]
    rfl

theorem withoutTmux_append (body : String) :
    withoutTmux ("tmux " ++ body).toList = body.toList := by
  rw [withoutTmux, String.toList_append]
  show (Text.after? tmuxWord (tmuxWord ++ body.toList)).getD _ = body.toList
  rw [Text.after?_append, Option.getD_some]

variable (target : Option (List Char))

/-- A line that types keys becomes a line that types them into the pane that is
remembered. -/
theorem piece_keys (rest : String) :
    piece target ("tmux " ++ ("send-keys" ++ rest)).toList =
      sendKeysWord ++ " -t ".toList ++ target.getD defaultPane ++ rest.toList := by
  have hkeys : Text.after? sendKeysWord ("send-keys" ++ rest).toList = some rest.toList := by
    rw [String.toList_append]
    exact Text.after?_append sendKeysWord rest.toList
  rw [piece, withoutTmux_append, hkeys]

variable {body : String} (h : Text.after? sendKeysWord body.toList = none)

include h

/-- A line that types no keys only loses its first word. -/
theorem piece_other : piece target ("tmux " ++ body).toList = body.toList := by
  rw [piece, withoutTmux_append, h]

theorem remember_other :
    remember target ("tmux " ++ body).toList = (selectedPane? body.toList).or target := by
  rw [remember, withoutTmux_append, h]

end Batch

/-! ## Reading the number of a pane back -/

/-- A text that is `select-pane -t` and digits selects the pane with these digits. -/
theorem selectedNumber?_of_after? {text digits : List Char}
    (h : Text.after? selectPaneWord text = some digits)
    (hdigits : ∀ c ∈ digits, Text.isDecimalDigit c) (hne : digits ≠ []) :
    selectedNumber? text = some digits := by
  have htake : digits.takeWhile Text.isDecimalDigit = digits := by
    have happend := @List.takeWhile_append_of_pos _ _ _ [] hdigits
    rwa [List.append_nil, List.takeWhile_nil, List.append_nil] at happend
  cases text with
  | nil => cases h
  | cons c text =>
    rw [selectedNumber?, h]
    show (if (digits.takeWhile Text.isDecimalDigit).isEmpty then _ else _) = _
    rw [htake, if_neg (by rwa [List.isEmpty_iff])]

/-- Selecting a pane by its number is recognized. -/
theorem selectedPane?_selectPane (number : Nat) :
    selectedPane? ("select-pane -t " ++ toString number).toList =
      some (toString number).toList := by
  have hdigits : ∀ c ∈ (toString number).toList, c.isDigit :=
    fun _ hc => Text.isDigit_of_mem_toString hc
  -- neither the words before the number nor its digits have a capital letter
  have htitle : Text.occurs ['-', 'T'] (selectPaneWord ++ (toString number).toList) = false := by
    refine Text.occurs_eq_false_of_not_mem (c := 'T') (by decide) ?_
    intro hmem
    rcases List.mem_append.mp hmem with hword | hdigit
    · exact absurd hword (by decide)
    · exact absurd (hdigits 'T' hdigit) (by decide)
  rw [String.toList_append]
  show selectedPane? (selectPaneWord ++ (toString number).toList) = _
  rw [selectedPane?, htitle, if_neg Bool.false_ne_true]
  exact selectedNumber?_of_after? (Text.after?_append _ _)
    (fun c hc => Text.isDecimalDigit_of_isDigit c (hdigits c hc))
    (Text.toList_toString_ne_nil number)

/-- Setting a title selects no pane, whatever the title looks like. -/
theorem selectedPane?_setTitle (rest : String) :
    selectedPane? ("select-pane -T " ++ rest).toList = none := by
  have htitle : Text.occurs ['-', 'T'] ("select-pane -T ".toList ++ rest.toList) = true := rfl
  rw [selectedPane?, String.toList_append, htitle]
  rfl

/-! ## Steps one after the other -/

namespace TmuxCommand

/-- The first word of a text, `tmux`, comes off. -/
theorem append_eq_tmux {word verb : String} (h : word = "tmux " ++ verb) (rest : String) :
    word ++ rest = "tmux " ++ (verb ++ rest) := by
  rw [h, String.append_assoc]

/-- Whether a text types keys is settled by the word it begins with. -/
theorem after?_sendKeysWord_append (verb : String)
    (h : ∀ cs, Text.after? sendKeysWord (verb.toList ++ cs) = none) (rest : String) :
    Text.after? sendKeysWord (verb ++ rest).toList = none := by
  rw [String.toList_append]
  exact h rest.toList

/-- A command that types no keys has a text that types none behind `tmux`. -/
theorem exists_body {command : TmuxCommand} (h : ∀ keys, command ≠ .sendKeys keys) :
    ∃ body, command.text = "tmux " ++ body ∧
      Text.after? sendKeysWord body.toList = none := by
  -- the verb decides, and what is behind it does not matter
  have hword : ∀ {word : String} (verb rest : String), word = "tmux " ++ verb →
      (∀ cs, Text.after? sendKeysWord (verb.toList ++ cs) = none) →
      ∃ body, word ++ rest = "tmux " ++ body ∧
        Text.after? sendKeysWord body.toList = none := by
    intro word verb rest hword hverb
    exact ⟨verb ++ rest, append_eq_tmux hword rest, after?_sendKeysWord_append verb hverb rest⟩
  unfold text
  cases command with
  | newWindow name directory =>
    simp only [String.append_assoc]
    exact hword "new-window" _ rfl fun _ => rfl
  | splitWindow direction percent directory =>
    simp only [String.append_assoc]
    exact hword "split-window " _ rfl fun _ => rfl
  | selectPane target => exact hword "select-pane -t " _ rfl fun _ => rfl
  | setTitle title => exact hword "select-pane -T " _ rfl fun _ => rfl
  | sendKeys keys => exact absurd rfl (h keys)
  | focusTitle title => exact hword "select-pane -t " _ rfl fun _ => rfl

end TmuxCommand

/-- What the lines of steps become when a pane is remembered before them. -/
def piecesFrom (target : Option (List Char)) (steps : List Step) : List String :=
  (Batch.pieces target (steps.map fun step => step.text.toList)).map String.ofList

/-- Whatever pane is remembered before the steps, they become aimed pieces. -/
def Aims (startups : List (Nat × String)) (steps : List Step) : Prop :=
  ∀ target, Aimed startups steps (piecesFrom target steps)

theorem Aims.nil : Aims [] [] := fun _ => .nil

theorem Aims.append {startups others : List (Nat × String)} {steps more : List Step}
    (h : Aims startups steps) (hmore : Aims others more) :
    Aims (startups ++ others) (steps ++ more) := by
  intro target
  rw [piecesFrom, List.map_append, Batch.pieces_append, List.map_append]
  exact (h target).append (hmore _)

/-- A step that types no keys has its text without `tmux`. -/
theorem aimed_cons_of_ne {startups : List (Nat × String)} {step : Step} {steps : List Step}
    {target : Option (List Char)} (hkeys : ∀ keys, step.command ≠ .sendKeys keys)
    (h : Aimed startups steps (piecesFrom (Batch.remember target step.text.toList) steps)) :
    Aimed startups (step :: steps) (piecesFrom target (step :: steps)) := by
  obtain ⟨body, htext, hbody⟩ := TmuxCommand.exists_body hkeys
  have hpiece : String.ofList (Batch.piece target step.text.toList) = body := by
    rw [Step.text, htext, Batch.piece_other target hbody, String.ofList_toList]
  rw [piecesFrom, List.map_cons, Batch.pieces_cons, List.map_cons, hpiece]
  exact .other hkeys htext h

theorem Aims.cons {startups : List (Nat × String)} {step : Step} {steps : List Step}
    (hkeys : ∀ keys, step.command ≠ .sendKeys keys) (h : Aims startups steps) :
    Aims startups (step :: steps) :=
  fun _ => aimed_cons_of_ne hkeys (h _)

theorem aims_of_forall {steps : List Step}
    (hkeys : ∀ step ∈ steps, ∀ keys, step.command ≠ .sendKeys keys) : Aims [] steps := by
  induction steps with
  | nil => exact .nil
  | cons step steps ih =>
    exact .cons (hkeys step List.mem_cons_self)
      (ih fun other hother => hkeys other (List.mem_cons_of_mem step hother))

/-! ## Leaves -/

/-- The number of a pane as the digits that are remembered. -/
def paneDigits (index : Nat) : List Char :=
  (toString index).toList

/-- Behind the step that selects a pane its number is remembered. -/
theorem remember_selectPane (target : Option (List Char)) (index : Nat) :
    Batch.remember target (TmuxCommand.selectPane index).text.toList =
      some (paneDigits index) := by
  have htext : (TmuxCommand.selectPane index).text =
      "tmux " ++ ("select-pane -t " ++ toString index) :=
    TmuxCommand.append_eq_tmux (by rfl) _
  have hkeys := TmuxCommand.after?_sendKeysWord_append "select-pane -t " fun _ => rfl
  rw [htext, Batch.remember_other target (hkeys _), selectedPane?_selectPane]
  rfl

/-- A title leaves the remembered pane as it is, whatever it looks like. -/
theorem remember_setTitle (target : Option (List Char)) (title : String) :
    Batch.remember target (TmuxCommand.setTitle title).text.toList = target := by
  have htext : (TmuxCommand.setTitle title).text =
      "tmux " ++ ("select-pane -T " ++ TmuxCommand.quoted title) :=
    TmuxCommand.append_eq_tmux (by rfl) _
  have hkeys := TmuxCommand.after?_sendKeysWord_append "select-pane -T " fun _ => rfl
  rw [htext, Batch.remember_other target (hkeys _), selectedPane?_setTitle]
  rfl

/-- Keys are typed into the pane that is remembered. -/
theorem piece_sendKeys (index : Nat) (keys : String) :
    String.ofList (Batch.piece (some (paneDigits index)) (TmuxCommand.sendKeys keys).text.toList) =
      aimedKeys index keys := by
  have htext : (TmuxCommand.sendKeys keys).text =
      "tmux " ++ ("send-keys" ++ (" " ++ (TmuxCommand.quoted keys ++ " Enter"))) := by
    have hspace : "send-keys" ++ (" " ++ (TmuxCommand.quoted keys ++ " Enter")) =
        "send-keys " ++ (TmuxCommand.quoted keys ++ " Enter") := by
      rw [← String.append_assoc]
      rfl
    rw [hspace]
    show "tmux send-keys " ++ TmuxCommand.quoted keys ++ " Enter" = _
    rw [String.append_assoc]
    exact TmuxCommand.append_eq_tmux (by rfl) _
  rw [htext, Batch.piece_keys, aimedKeys_eq]
  apply String.toList_inj.mp
  rw [String.toList_ofList]
  simp only [String.toList_append, List.append_assoc]
  rfl

/-- The command of a pane, if it has one, is aimed at it when it is remembered. -/
theorem aimed_startup (index : Nat) (keys? : Option String) :
    Aimed (keys?.map fun keys => (index, keys)).toList
      (keys?.map fun keys => (⟨.sendKeys keys, .run keys⟩ : Step)).toList
      (piecesFrom (some (paneDigits index))
        (keys?.map fun keys => (⟨.sendKeys keys, .run keys⟩ : Step)).toList) := by
  cases keys? with
  | none => exact .nil
  | some keys =>
    show Aimed [(index, keys)] [⟨.sendKeys keys, .run keys⟩]
      (piecesFrom (some (paneDigits index)) [⟨.sendKeys keys, .run keys⟩])
    rw [piecesFrom, List.map_cons, Batch.pieces_cons, List.map_cons]
    show Aimed _ _ (String.ofList (Batch.piece _ (TmuxCommand.sendKeys keys).text.toList) :: _)
    rw [piece_sendKeys]
    exact .keys index keys _ .nil

/-- The commands of a leaf are aimed at it: it is selected, then gets its title,
which is not taken for a selection, and then its keys. -/
theorem aims_paneSteps (pane : Pane) (index : Nat) :
    Aims (startupsFrom index [pane]) (paneSteps pane index) := by
  intro target
  rw [startupsFrom_singleton, paneSteps]
  -- selecting the pane replaces whatever was remembered before
  refine aimed_cons_of_ne (fun keys h => nomatch h) ?_
  rw [Step.text, remember_selectPane]
  cases pane.title? with
  | none => exact aimed_startup index pane.startupCommand?
  | some title =>
    refine aimed_cons_of_ne (fun keys h => nomatch h) ?_
    rw [Step.text, remember_setTitle]
    exact aimed_startup index pane.startupCommand?

/-! ## Trees -/

theorem aims_splits (directory : String) (frame : Frame) (childCount : Nat) :
    Aims [] (splits directory frame childCount) := by
  refine aims_of_forall fun step hstep keys hkeys => ?_
  obtain ⟨percent, hcommand⟩ := command_of_mem_splits hstep
  cases hcommand.symm.trans hkeys

mutual

/-- The commands of a node are aimed at its leaves, in whose order they come. -/
theorem Node.aims_commands (directory : String) (node : Node) (index : Nat) :
    Aims (startupsFrom index node.leaves) (node.commands directory index) := by
  cases node with
  | pane pane => exact aims_paneSteps pane index
  | container frame children =>
    rw [Node.leaves, Node.commands, List.cons_append]
    refine .cons (fun keys h => nomatch h) ?_
    exact (aims_splits directory frame children.length).append
      (aims_childCommands directory children index)

theorem aims_childCommands (directory : String) (nodes : List Node) (index : Nat) :
    Aims (startupsFrom index (Node.childLeaves nodes)) (childCommands directory nodes index) := by
  cases nodes with
  | nil => exact .nil
  | cons node nodes =>
    rw [Node.childLeaves, startupsFrom_append, Node.length_leaves, childCommands]
    exact (Node.aims_commands directory node index).append
      (aims_childCommands directory nodes (index + node.paneCount))

end

/-! ## Layouts -/

namespace Layout

/-- The commands of a layout aim well. -/
theorem aims_commands (layout : Layout) (directory window : Option String) :
    Aims layout.startups (layout.commands directory window) := by
  have hbuild : Aims layout.startups (layout.buildCommands directory window) := by
    rw [buildCommands, List.cons_append]
    refine .cons (fun keys h => nomatch h) ?_
    exact (aims_splits _ layout.frame layout.children.length).append
      (aims_childCommands _ layout.children 1)
  have hfocus : Aims [] layout.focusCommands := by
    rw [focusCommands]
    cases layout.root.focusTitle? with
    | none => exact .nil
    | some title => exact .cons (fun keys h => nomatch h) .nil
  have happend := hbuild.append hfocus
  rwa [List.append_nil] at happend

/-- **On one line, keys reach the pane they are for.** The line of a compiled
layout consists of `tmux` and a piece for each step in order: the commands of the
leaves aimed at their panes, from left to right, and all other steps as they are
without their leading `tmux`. No name, command or directory changes that. -/
theorem batchLine_of_compile {layout : Layout} {directory window : Option String}
    {steps : List Step} (h : layout.compile directory window = .ok steps) :
    ∃ pieces, Aimed layout.startups steps pieces ∧
      batchLine (steps.map Step.text) = "tmux " ++ " \\; ".intercalate pieces := by
  have hsteps := eq_commands_of_compile h
  have haimed : Aimed layout.startups steps (piecesFrom none steps) := by
    rw [hsteps]
    exact layout.aims_commands directory window none
  refine ⟨piecesFrom none steps, haimed, ?_⟩
  -- there is always the new window, so the line is never the empty one
  have hne : (steps.map Step.text).isEmpty = false := by
    rw [hsteps]
    rfl
  rw [batchLine, hne, if_neg Bool.false_ne_true, piecesFrom, List.map_map]
  rfl

/-- A directory, a name and a command that look like commands of tmux. -/
theorem batchLine_of_compile_misleading :
    let layout : Layout := ⟨none, .plain .horizontal,
      [.container (.plain .vertical) [], .pane (.named "select-pane -t 9"),
        .pane ((Pane.named "-T").withCommand "tmux send-keys")]⟩
    let directory := some "/select-pane -t 9 \\; send-keys"
    ∃ steps pieces, layout.compile directory none = .ok steps ∧
      Aimed [(2, "tmux send-keys")] steps pieces ∧
      batchLine (steps.map Step.text) = "tmux " ++ " \\; ".intercalate pieces := by
  intro layout directory
  have hcompile : layout.compile directory none = .ok _ := rfl
  obtain ⟨pieces, haimed, hline⟩ := batchLine_of_compile hcompile
  exact ⟨_, pieces, hcompile, haimed, hline⟩

end Layout

end TmuxLayout
