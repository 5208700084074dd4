import TmuxLayout.Proofs.Batch.Targets
import TmuxLayout.Proofs.Except
import TmuxLayout.Proofs.Tmux.Calls

/-!
# All commands in one call

The steps of a layout in one call of tmux do what they do one by one, focus apart.
Keys are aimed at the pane that is remembered, and that is the active one: each leaf
selects its pane before its keys come. The question for the pane with a title is
asked before the call, in the window that was current then.

- `Pane.IsPlain`, `Layout.IsPlain`: texts that mean nothing but themselves.
- `Leads`: the commands of one call, from a window to a window.
- `Carries`: in one call, whatever pane is remembered before them, steps lead where
  they lead one by one. The steps of each node have this property.
- `focusAsked`: focus with the question asked in another window.
- `Layout.obey_batchLine`: what the one call of a layout does.
-/

namespace TmuxLayout

/-! ## Plain layouts -/

/-- The texts of a pane mean nothing but themselves. -/
structure Pane.IsPlain (pane : Pane) : Prop where
  name : ∀ text ∈ pane.name, TmuxLayout.IsPlain text
  command : ∀ text ∈ pane.command, TmuxLayout.IsPlain text ∧ ¬ isOption text

/-- The texts of all panes mean nothing but themselves. -/
def Layout.IsPlain (layout : Layout) : Prop :=
  ∀ leaf ∈ layout.leaves, leaf.IsPlain

namespace Pane.IsPlain

variable {pane : Pane} (h : pane.IsPlain)

include h

theorem title {text : String} (htext : pane.title? = some text) : TmuxLayout.IsPlain text :=
  h.name text (Option.filter_eq_some_iff.mp htext).1

theorem startupCommand {text : String} (htext : pane.startupCommand? = some text) :
    TmuxLayout.IsPlain text ∧ ¬ isOption text :=
  h.command text (Option.filter_eq_some_iff.mp htext).1

end Pane.IsPlain

/-! ## Commands of one call -/

/-- The commands of one call, with all questions asked in the same window, lead from
a window to a window. -/
def Leads (asked : Window Terminal) (pieces : List String) (w v : Window Terminal) : Prop :=
  ∃ calls, Line.AreCalls (output? asked) pieces calls ∧ calls.foldlM obeyCall w = .ok v

namespace Leads

variable {asked w u v : Window Terminal} {pieces rest : List String}

theorem nil : Leads asked [] w w :=
  ⟨[], .nil, rfl⟩

theorem single {piece : String} {words : List String}
    (hcall : Line.IsCall (output? asked) piece words) (h : obeyCall w words = .ok v) :
    Leads asked [piece] w v := by
  refine ⟨[words], .cons hcall .nil, ?_⟩
  rw [List.foldlM_cons, h]
  rfl

theorem append (h : Leads asked pieces w u) (hrest : Leads asked rest u v) :
    Leads asked (pieces ++ rest) w v := by
  obtain ⟨calls, hcalls, hfold⟩ := h
  obtain ⟨others, hothers, hfold'⟩ := hrest
  refine ⟨calls ++ others, List.rel_append hcalls hothers, ?_⟩
  rw [List.foldlM_append, hfold]
  exact hfold'

/-- A call does what its commands lead to. -/
theorem obey_eq (h : Leads asked pieces asked v) (hne : pieces ≠ []) :
    obey asked ("tmux " ++ separator.intercalate pieces) = .ok v := by
  obtain ⟨calls, hcalls, hfold⟩ := h
  rw [obey_calls hcalls hne, hfold]

end Leads

/-! ## Steps in one call -/

/-- The line of steps is `tmux` and the pieces that they become. -/
theorem batchLine_eq {steps : List Step} (h : steps ≠ []) :
    batchLine (steps.map Step.text) = "tmux " ++ separator.intercalate (piecesFrom none steps) := by
  have hne : (steps.map Step.text).isEmpty = false := by
    rw [List.isEmpty_map, List.isEmpty_eq_false_iff]
    exact h
  rw [batchLine, hne, if_neg Bool.false_ne_true, piecesFrom, List.map_map]
  rfl

theorem piecesFrom_ne_nil {steps : List Step} (h : steps ≠ []) (target : Option (List Char)) :
    piecesFrom target steps ≠ [] := by
  cases steps with
  | nil => exact absurd rfl h
  | cons step steps =>
    rw [piecesFrom, List.map_cons, Batch.pieces_cons, List.map_cons]
    exact List.cons_ne_nil _ _

/-- Steps become pieces one after the other, behind whatever pane is remembered. -/
theorem exists_piecesFrom_append (target : Option (List Char)) (steps : List Step) :
    ∃ after, ∀ more,
      piecesFrom target (steps ++ more) = piecesFrom target steps ++ piecesFrom after more := by
  refine ⟨(steps.map fun step => step.text.toList).foldl Batch.remember target, fun more => ?_⟩
  rw [piecesFrom, List.map_append, Batch.pieces_append, List.map_append]
  rfl

/-- A step that types no keys has its text without `tmux`. -/
theorem piecesFrom_cons_of_ne {step : Step} (hkeys : ∀ keys, step.command ≠ .sendKeys keys)
    (target : Option (List Char)) (steps : List Step) :
    piecesFrom target (step :: steps) = " ".intercalate step.command.parts ::
      piecesFrom (Batch.remember target step.text.toList) steps := by
  obtain ⟨body, htext, hbody⟩ := TmuxCommand.exists_body hkeys
  have heq : " ".intercalate step.command.parts = body :=
    (String.append_right_inj _).mp (step.command.text_eq.symm.trans htext)
  have hpiece : String.ofList (Batch.piece target step.text.toList) = body := by
    rw [Step.text, htext, Batch.piece_other target hbody, String.ofList_toList]
  rw [piecesFrom, List.map_cons, Batch.pieces_cons, List.map_cons, hpiece, heq]
  rfl

/-- Whether a command neither types keys nor asks a question. -/
def TmuxCommand.isDirect : TmuxCommand → Bool
  | sendKeys _ => false
  | focusTitle _ => false
  | _ => true

theorem TmuxCommand.ne_of_isDirect {command : TmuxCommand} (h : command.isDirect) :
    (∀ keys, command ≠ .sendKeys keys) ∧ ∀ title, command ≠ .focusTitle title := by
  constructor
  · rintro keys rfl
    cases h
  · rintro title rfl
    cases h

/-- A direct command does in a call what it does alone. -/
theorem Leads.cons_of_isDirect {asked w u v : Window Terminal} {step : Step} {steps : List Step}
    {target : Option (List Char)} (hread : step.command.IsReadable)
    (hdirect : step.command.isDirect) (hrun : step.command.run w = .ok u)
    (hrest : Leads asked (piecesFrom (Batch.remember target step.text.toList) steps) u v) :
    Leads asked (piecesFrom target (step :: steps)) w v := by
  obtain ⟨hkeys, hfocus⟩ := TmuxCommand.ne_of_isDirect hdirect
  have hcall := TmuxCommand.isCall_parts asked hread
  have hobey : obeyCall w (step.command.words asked) = .ok u := by
    rw [TmuxCommand.obeyCall_words hread hfocus, hrun]
    rfl
  rw [piecesFrom_cons_of_ne hkeys]
  exact (single hcall hobey).append hrest

/-- In one call the steps lead where they lead one by one, whatever pane is
remembered before them. -/
structure Carries (steps : List Step) : Prop where
  readable : ∀ step ∈ steps, step.command.IsReadable
  leads : ∀ (asked : Window Terminal) (target : Option (List Char)) {w v : Window Terminal},
    runSteps w steps = .ok v → Leads asked (piecesFrom target steps) w v

namespace Carries

variable {step : Step} {steps more : List Step}

theorem nil : Carries [] := by
  refine ⟨fun step h => absurd h List.not_mem_nil, fun asked target w v h => ?_⟩
  cases h
  exact .nil

theorem cons (hread : step.command.IsReadable) (hdirect : step.command.isDirect)
    (h : Carries steps) : Carries (step :: steps) := by
  refine ⟨List.forall_mem_cons.mpr ⟨hread, h.readable⟩, fun asked target w v hrun => ?_⟩
  obtain ⟨u, hstep, hrest⟩ := exists_of_runSteps_cons hrun
  exact .cons_of_isDirect hread hdirect hstep (h.leads asked _ hrest)

theorem append (h : Carries steps) (hmore : Carries more) : Carries (steps ++ more) := by
  refine ⟨List.forall_mem_append.mpr ⟨h.readable, hmore.readable⟩,
    fun asked target w v hrun => ?_⟩
  obtain ⟨u, hfirst, hrest⟩ := exists_of_runSteps_append hrun
  obtain ⟨after, hpieces⟩ := exists_piecesFrom_append target steps
  rw [hpieces more]
  exact (h.leads asked target hfirst).append (hmore.leads asked after hrest)

end Carries

/-! ## Leaves -/

open Line in
/-- The words of keys that are aimed at a pane. -/
theorem isCall_aimedKeys {output? : String → Option String} (number : Nat) {keys : String}
    (h : IsPlain keys) :
    IsCall output? (aimedKeys number keys)
      ["send-keys", "-t", toString number, keys, "Enter"] := by
  have htext : aimedKeys number keys =
      " ".intercalate ["send-keys", "-t", toString number, TmuxCommand.quoted keys, "Enter"] := by
    have hverb : "send-keys -t " = "send-keys" ++ (" " ++ ("-t" ++ " ")) := rfl
    have hlast : " Enter" = " " ++ "Enter" := rfl
    rw [aimedKeys_eq, hverb, hlast]
    simp only [String.intercalate_cons_cons, String.intercalate_singleton, String.append_assoc]
  rw [htext]
  exact isCall_intercalate (.cons (isCall_bare _ (by decide)) (.cons (isCall_bare _ (by decide))
    (.cons (isCall_bare _ (isBare_toString number)) (.cons (isCall_quoted h.isQuotable)
      (.cons (isCall_bare _ (by decide)) .nil))))) (List.cons_ne_nil _ _)

/-- The keys of a pane reach it when it is both the active and the remembered one. -/
theorem leads_startup {asked w v : Window Terminal} {keys? : Option String}
    (hplain : ∀ keys, keys? = some keys → IsPlain keys ∧ ¬ isOption keys)
    (hrun : runSteps w (keys?.map fun keys => (⟨.sendKeys keys, .run keys⟩ : Step)).toList =
      .ok v) :
    Leads asked
      (piecesFrom (some (paneDigits w.activeIndex))
        (keys?.map fun keys => (⟨.sendKeys keys, .run keys⟩ : Step)).toList) w v := by
  cases keys? with
  | none =>
    cases hrun
    exact .nil
  | some keys =>
    obtain ⟨hkeys, hoption⟩ := hplain keys rfl
    cases hrun
    have hpiece : piecesFrom (some (paneDigits w.activeIndex)) [⟨.sendKeys keys, .run keys⟩] =
        [aimedKeys w.activeIndex keys] := by
      rw [piecesFrom, List.map_cons, Batch.pieces_cons, List.map_cons]
      exact congrArg ([·]) (piece_sendKeys w.activeIndex keys)
    rw [Option.map_some, Option.toList_some, hpiece]
    exact .single (isCall_aimedKeys _ hkeys) (obeyCall_activeIndex w hoption)

/-- The steps of a leaf select its pane, so that the active pane is the remembered
one when its keys come. -/
theorem carries_paneSteps {pane : Pane} (h : pane.IsPlain) (index : Nat) :
    Carries (paneSteps pane index) := by
  constructor
  · intro step hstep
    obtain rfl | hrest := List.mem_cons.mp hstep
    · trivial
    obtain htitle | hkeys := List.mem_append.mp hrest
    · obtain ⟨title, htext, rfl⟩ := Option.map_eq_some_iff.mp (Option.mem_toList.mp htitle)
      exact h.title htext
    · obtain ⟨keys, htext, rfl⟩ := Option.map_eq_some_iff.mp (Option.mem_toList.mp hkeys)
      exact h.startupCommand htext
  · intro asked target w v hrun
    obtain ⟨u, hselect, hrest⟩ := exists_of_runSteps_cons hrun
    obtain ⟨x, htitle, hkeys⟩ := exists_of_runSteps_append hrest
    refine .cons_of_isDirect trivial rfl hselect ?_
    -- whatever was remembered before, it is the active pane from here on
    rw [Step.text, remember_selectPane, ← activeIndex_of_run_selectPane hselect]
    cases htext : pane.title? with
    | none =>
      rw [htext] at htitle
      cases htitle
      exact leads_startup (fun keys => h.startupCommand) hkeys
    | some title =>
      rw [htext] at htitle
      cases htitle
      refine .cons_of_isDirect (h.title htext) rfl rfl ?_
      rw [Step.text, remember_setTitle]
      exact leads_startup (fun keys => h.startupCommand) hkeys

/-! ## Trees -/

theorem carries_splits {directory : String} (h : Line.IsQuotable directory) (frame : Frame)
    (childCount : Nat) : Carries (splits directory frame childCount) := by
  rw [splits]
  induction (splitPercentages frame.ratio childCount).zipIdx with
  | nil => exact .nil
  | cons split splits ih => exact .cons h rfl ih

mutual

/-- The steps of a node do in one call what they do one by one. -/
theorem Node.carries_commands {directory : String} (hdirectory : Line.IsQuotable directory)
    (node : Node) (hplain : ∀ leaf ∈ node.leaves, leaf.IsPlain) (index : Nat) :
    Carries (node.commands directory index) := by
  cases node with
  | pane pane => exact carries_paneSteps (hplain pane List.mem_cons_self) index
  | container frame children =>
    rw [Node.commands, List.cons_append]
    refine .cons trivial rfl ?_
    exact (carries_splits hdirectory frame children.length).append
      (carries_childCommands hdirectory children hplain index)

theorem carries_childCommands {directory : String} (hdirectory : Line.IsQuotable directory)
    (nodes : List Node) (hplain : ∀ leaf ∈ Node.childLeaves nodes, leaf.IsPlain) (index : Nat) :
    Carries (childCommands directory nodes index) := by
  cases nodes with
  | nil => exact .nil
  | cons node nodes =>
    obtain ⟨hnode, hnodes⟩ := List.forall_mem_append.mp hplain
    exact (Node.carries_commands hdirectory node hnode index).append
      (carries_childCommands hdirectory nodes hnodes (index + node.paneCount))

end

/-! ## Focus -/

/-- Focus on the pane with a title when the question for it was asked in another
window: the number of the pane is the one that it had there. -/
def focusAsked (asked w : Window Terminal) :
    (title? : Option String) → Except TmuxFault (Window Terminal)
  | none => .ok w
  | some title =>
    (asked.paneTitled? title).elim (.ok w) fun index => (TmuxCommand.selectPane index).run w

/-- Focus changes no pane, whatever window the question was asked in. -/
theorem panes_of_focusAsked {asked w v : Window Terminal} {title? : Option String}
    (h : focusAsked asked w title? = .ok v) : v.panes = w.panes := by
  cases title? with
  | none =>
    cases h
    rfl
  | some title =>
    rw [focusAsked] at h
    cases hasked : asked.paneTitled? title with
    | none =>
      rw [hasked] at h
      cases h
      rfl
    | some index =>
      rw [hasked] at h
      exact panes_of_run_selectPane h

namespace Layout

variable {layout : Layout} {directory name : Option String}

theorem runSteps_focusCommands_eq (layout : Layout) (w : Window Terminal) :
    runSteps w layout.focusCommands = focusAsked w w layout.root.focusTitle? := by
  rw [focusCommands]
  cases layout.root.focusTitle? with
  | none => rfl
  | some title =>
    show (TmuxCommand.focusTitle title).run w >>= pure = focusAsked w w (some title)
    rw [bind_pure, TmuxCommand.run_focusTitle]
    rfl

theorem IsPlain.focusTitle (h : layout.IsPlain) {title : String}
    (htitle : layout.root.focusTitle? = some title) : TmuxLayout.IsPlain title := by
  obtain ⟨leaf, hleaf, heq⟩ := Node.exists_of_focusTitle? layout.root htitle
  exact (h leaf hleaf).title heq

section

variable (hplain : layout.IsPlain) (hdirectory : ∀ text ∈ directory, Line.IsQuotable text)
  (hname : ∀ text ∈ name, Line.IsQuotable text)

include hplain hdirectory hname

theorem carries_buildCommands : Carries (layout.buildCommands directory name) := by
  have hpath : Line.IsQuotable (directory.getD currentPath) := by
    cases directory with
    | none => decide
    | some text => exact hdirectory text rfl
  rw [buildCommands, List.cons_append]
  refine .cons ⟨hname, hpath⟩ rfl ?_
  exact (carries_splits hpath layout.frame layout.children.length).append
    (carries_childCommands hpath layout.children hplain 1)

theorem isReadable_of_mem_commands :
    ∀ step ∈ layout.commands directory name, step.command.IsReadable := by
  refine List.forall_mem_append.mpr
    ⟨(carries_buildCommands hplain hdirectory hname).readable, fun step hstep => ?_⟩
  obtain ⟨title, htitle, rfl⟩ := Option.map_eq_some_iff.mp (Option.mem_toList.mp hstep)
  exact hplain.focusTitle htitle

/-- The one call of a layout builds its panes, and then has the focus that was asked
for in the window before. -/
theorem obey_batchLine {asked built : Window Terminal}
    (hbuilt : runSteps asked (layout.buildCommands directory name) = .ok built) :
    obey asked (batchLine ((layout.commands directory name).map Step.text)) =
      (focusAsked asked built layout.root.focusTitle?).mapError .fault := by
  have hcarries := carries_buildCommands hplain hdirectory hname
  have hline : batchLine ((layout.commands directory name).map Step.text) = _ :=
    batchLine_eq (List.cons_ne_nil _ _)
  cases htitle : layout.root.focusTitle? with
  | none =>
    have hcommands : layout.commands directory name = layout.buildCommands directory name := by
      rw [commands, focusCommands, htitle]
      exact List.append_nil _
    rw [hline, hcommands]
    exact (hcarries.leads asked none hbuilt).obey_eq (piecesFrom_ne_nil (List.cons_ne_nil _ _) none)
  | some title =>
    -- focus comes last, with an answer from before the first command
    obtain ⟨calls, hcalls, hfold⟩ := hcarries.leads asked none hbuilt
    obtain ⟨after, hpieces⟩ :=
      exists_piecesFrom_append none (layout.buildCommands directory name)
    have hreadable : (TmuxCommand.focusTitle title).IsReadable := hplain.focusTitle htitle
    have hcall := TmuxCommand.isCall_parts asked hreadable
    have hfocus : piecesFrom after layout.focusCommands =
        [" ".intercalate (TmuxCommand.focusTitle title).parts] := by
      have hkeys : ∀ keys, (focusStep title).command ≠ .sendKeys keys := by
        rintro keys ⟨⟩
      rw [focusCommands, htitle]
      exact piecesFrom_cons_of_ne hkeys after []
    have hall := List.rel_append hcalls (.cons hcall .nil)
    rw [hline, commands, hpieces, hfocus, obey_calls hall (by simp), List.foldlM_append, hfold]
    show obeyCall built _ >>= pure = _
    rw [bind_pure, TmuxCommand.obeyCall_focusTitle, focusAsked]
    cases asked.paneTitled? title with
    | none => rfl
    | some index => rfl

end

end Layout

end TmuxLayout
