import TmuxLayout.Proofs.Tmux.Line
import TmuxLayout.Proofs.Tmux.Window
import TmuxLayout.Text.Search

/-!
# Titles of panes

The pane with a title is found by a question that stands in a line for tmux: tmux
prints the index of each pane with the title, and the first of them is put into
the line. A title that means something to the shell or to tmux would change the
question, so it is left open what happens then.

- `Window.paneTitled?`, `Window.answer`: the pane with a title, and what is put in
  place of the question for it.
- `IsPlain`: texts that mean nothing but themselves.
- `question`, `output?`: the question, and what a line within a line prints.
- `IsPlain.titleAsked?_question`: the question for a title asks for that title.
- `TmuxCommand.run_focusTitle`: focus selects the pane that is found.
-/

namespace TmuxLayout

/-! ## Which pane has a title -/

namespace Window

/-- The index of the first pane with a title. -/
def paneTitled? (w : Window Terminal) (title : String) : Option Nat :=
  (w.panes.findIdx? (Terminal.hasTitle title)).map (· + 1)

/-- A title that a pane has is found. -/
theorem exists_paneTitled? {w : Window Terminal} {pane : Terminal} (hpane : pane ∈ w.panes)
    {title : String} (htitle : pane.title = some title) :
    ∃ index, w.paneTitled? title = some index := by
  have hany : w.panes.any (Terminal.hasTitle title) = true :=
    List.any_eq_true.mpr ⟨pane, hpane, decide_eq_true htitle⟩
  rw [← List.findIdx?_isSome] at hany
  obtain ⟨index, hindex⟩ := Option.isSome_iff_exists.mp hany
  refine ⟨index + 1, ?_⟩
  rw [paneTitled?, hindex, Option.map_some]

/-- What tmux prints for each pane: the index of a pane with the title, and nothing
for the others. -/
def titleLines (title : String) (panes : List Terminal) (first : Nat) : List String :=
  (panes.zipIdx first).map fun (pane, index) =>
    if pane.hasTitle title then toString index else ""

/-- The first line that is not empty. -/
def answer (w : Window Terminal) (title : String) : String :=
  ((titleLines title w.panes 1).find? (!·.isEmpty)).getD ""

/-- The first line that is not empty is that of the first pane with the title. -/
theorem find?_titleLines (title : String) (panes : List Terminal) (first : Nat) :
    (titleLines title panes first).find? (!·.isEmpty) =
      (panes.findIdx? (Terminal.hasTitle title)).map fun index => toString (index + first) := by
  induction panes generalizing first with
  | nil => rfl
  | cons pane panes ih =>
    rw [titleLines, List.zipIdx_cons, List.map_cons, List.findIdx?_cons]
    dsimp only
    cases hpane : pane.hasTitle title with
    | true =>
      have hline : (toString first).isEmpty = false :=
        String.isEmpty_eq_false_iff.mpr Nat.repr_ne_empty
      rw [if_pos rfl, if_pos rfl, List.find?_cons_of_pos (by rw [hline]; rfl), Option.map_some,
        Nat.zero_add]
    | false =>
      rw [if_neg Bool.false_ne_true, if_neg Bool.false_ne_true,
        List.find?_cons_of_neg (by decide), Option.map_map]
      refine (ih (first + 1)).trans (congrArg (Option.map · _) (funext fun index => ?_))
      rw [Function.comp_apply, Nat.add_right_comm, Nat.add_assoc]

/-- The question is answered with the pane that has the title, or not at all. -/
theorem answer_eq (w : Window Terminal) (title : String) :
    w.answer title = (w.paneTitled? title).elim "" toString := by
  rw [answer, find?_titleLines, paneTitled?]
  cases w.panes.findIdx? (Terminal.hasTitle title) with
  | none => rfl
  | some index => rfl

end Window

/-! ## Plain texts -/

/-- The characters that mean something to the shell within quotes, or to tmux in a
title. -/
def specialCharacters : List Char := "\"'$`\\;)#,\x7d".toList

/-- Whether a character stands for itself in a title, and in the question for it. -/
def isPlain (c : Char) : Bool :=
  32 ≤ c.toNat && c.toNat ≠ 127 && !specialCharacters.contains c

/-- A text that means nothing but itself. -/
def IsPlain (text : String) : Prop :=
  ∀ c ∈ text.toList, isPlain c

instance : DecidablePred IsPlain := fun text =>
  List.decidableBAll (isPlain · = true) text.toList

/-! ## The question -/

/-- The question for a title, before the title. -/
def askBefore : String := "tmux list-panes -F '#\x7b?#\x7b==:#\x7bpane_title\x7d,"

/-- The question for a title, behind the title. -/
def askAfter : String := "\x7d,#\x7bpane_index\x7d,\x7d' | grep -v '^$' | head -1"

/-- The title that a line within a line asks for. -/
def titleAsked? (line : String) : Option String :=
  (Text.after? askBefore.toList line.toList).bind fun rest =>
    (Text.cut? askAfter.toList rest).bind fun (title, behind) =>
      if behind = [] ∧ IsPlain (String.ofList title) then some (String.ofList title) else none

/-- What a line within a line prints. -/
def output? (w : Window Terminal) (line : String) : Option String :=
  (titleAsked? line).map w.answer

/-- The question for a title. -/
def question (title : String) : String :=
  askBefore ++ title ++ askAfter

theorem TmuxCommand.paneWithTitle_eq (title : String) :
    paneWithTitle title = "$(" ++ question title ++ ")" := by
  have hbefore : "$(tmux list-panes -F '#\x7b?#\x7b==:#\x7bpane_title\x7d," = "$(" ++ askBefore :=
    rfl
  have hafter : "\x7d,#\x7bpane_index\x7d,\x7d' | grep -v '^$' | head -1)" = askAfter ++ ")" := rfl
  show "$(tmux list-panes -F '#\x7b?#\x7b==:#\x7bpane_title\x7d," ++ title ++
    "\x7d,#\x7bpane_index\x7d,\x7d' | grep -v '^$' | head -1)" = _
  rw [hbefore, hafter, question, String.append_assoc, String.append_assoc, String.append_assoc,
    String.append_assoc, String.append_assoc]

namespace IsPlain

variable {text : String} (h : IsPlain text)

include h

theorem not_mem {c : Char} (hc : c ∈ specialCharacters) : c ∉ text.toList := by
  intro hmem
  have hplain := h c hmem
  rw [isPlain, Bool.and_eq_true, Bool.not_eq_true', List.contains_eq_mem,
    decide_eq_false_iff_not] at hplain
  exact hplain.2 hc

theorem isQuotable : Line.IsQuotable text := by
  intro c hc
  have hsub : "\"$`\\;".toList ⊆ specialCharacters := by decide
  rw [Line.isQuotable, Bool.not_eq_true', List.contains_eq_mem, decide_eq_false_iff_not]
  exact fun hmem => h.not_mem (hsub hmem) hc

theorem not_mem_question : ')' ∉ (question text).toList := by
  rw [question, String.toList_append, String.toList_append]
  intro hmem
  obtain hmem | hafter := List.mem_append.mp hmem
  · obtain hbefore | htext := List.mem_append.mp hmem
    · exact absurd hbefore (by decide)
    · exact h.not_mem (by decide) htext
  · exact absurd hafter (by decide)

/-- The question for a title asks for that title. -/
theorem titleAsked?_question : titleAsked? (question text) = some text := by
  have hcut : Text.cut? askAfter.toList (text.toList ++ askAfter.toList) =
      some (text.toList, []) := by
    have hcut := Text.cut?_append (h.not_mem (c := '\x7d') (by decide)) askAfter.toList.tail []
    rwa [List.append_nil] at hcut
  rw [titleAsked?, question, String.toList_append, String.toList_append, List.append_assoc,
    Text.after?_append, Option.bind_some, hcut, Option.bind_some]
  dsimp only
  rw [String.ofList_toList, if_pos ⟨rfl, h⟩]

end IsPlain

theorem Window.answer_ne_semicolon (w : Window Terminal) (title : String) :
    w.answer title ≠ Line.semicolon := by
  rw [answer_eq]
  cases w.paneTitled? title with
  | none => decide
  | some index =>
    intro heq
    have hbare : Line.IsBare Line.semicolon := heq ▸ Line.isBare_toString index
    exact absurd hbare (by decide)

/-- The question within a line is read as its answer. -/
theorem IsPlain.isCall_paneWithTitle {text : String} (h : IsPlain text) (w : Window Terminal) :
    Line.IsCall (output? w) (TmuxCommand.quoted (TmuxCommand.paneWithTitle text))
      [w.answer text] := by
  have houtput : output? w (question text) = some (w.answer text) := by
    rw [output?, h.titleAsked?_question, Option.map_some]
  rw [TmuxCommand.paneWithTitle_eq]
  exact Line.isCall_output h.not_mem_question houtput (w.answer_ne_semicolon text)

/-! ## Focus -/

namespace TmuxCommand

/-- Focus selects the pane that has the title. -/
theorem run_focusTitle (w : Window Terminal) (title : String) :
    (focusTitle title).run w =
      (w.paneTitled? title).elim (.ok w) fun index => (selectPane index).run w := by
  rw [run, Window.focus, Window.paneTitled?]
  cases hfound : w.panes.findIdx? (Terminal.hasTitle title) with
  | none => rfl
  | some index =>
    have hsome : w.pane? (index + 1) ≠ none := by
      obtain ⟨hlt, -⟩ := List.findIdx?_eq_some_iff_getElem.mp hfound
      rw [Window.pane?, List.getElem?_eq_getElem hlt]
      exact Option.some_ne_none _
    have hselect : w.select? (index + 1) ≠ none := mt (w.select?_eq_none_iff _).mp hsome
    obtain ⟨v, hv⟩ := Option.ne_none_iff_exists'.mp hselect
    show Except.ok ((w.select? (index + 1)).getD w) = (selectPane (index + 1)).run w
    rw [run, hv, Option.getD_some]

end TmuxCommand

end TmuxLayout
