import TmuxLayout.Proofs.Compile.Commands
import TmuxLayout.Proofs.Layout.Leaves
import TmuxLayout.Proofs.Text.Splitting
import TmuxLayout.Proofs.Tmux.Calls

/-!
# The line of a layout is cut where its commands end (SPEC_FULL.md §4.2)

All commands of a layout can be put on one line, with a separator between them. Names,
commands and directories stand in these texts as they are and may begin or end with a part
of the separator, so it is not plain that the line is cut into the same commands again. It
is, since every text from outside stands between two characters that the separator does not
have, every command ends with such a character, and the rest of a command has no backslash.

- `commandsOn`, `separatorsOn`: the commands on a line, cut at each separator, and the
  number of separators.
- `commandsOn_joinLines`: sealed lines are found again.
- `TmuxCommand.texts`: the texts in a command that come from outside.
- `TmuxCommand.sealed_text`: a command whose texts lack the separator is sealed.
- `Pane.texts`, `Layout.mem_texts_of_commands`: the texts in the commands of a layout are
  those of its panes, the directory and the name of the window.
- `Layout.commandsOn_joinLines_of_compile`: the line of a compiled layout.
-/

namespace TmuxLayout

open Text (Sealed)

/-! ## Lines -/

/-- The separator behind its first character. -/
def separatorRest : List Char := "\\; ".toList

theorem toList_separator : separator.toList = ' ' :: separatorRest := rfl

/-- The commands on a line, cut at each separator from the left. -/
def commandsOn (line : String) : List String :=
  (Text.cutAll ' ' separatorRest line.toList).map String.ofList

/-- The number of separators on a line, from the left and without overlaps. -/
def separatorsOn (line : String) : Nat :=
  Text.countPlaces ' ' separatorRest line.toList

theorem length_commandsOn (line : String) :
    (commandsOn line).length = separatorsOn line + 1 := by
  rw [commandsOn, List.length_map, Text.length_cutAll, separatorsOn]

/-- Sealed lines are found again when they are put on one line. -/
theorem commandsOn_joinLines {lines : List String}
    (h : ∀ line ∈ lines, Sealed separator.toList line.toList) (hne : lines ≠ []) :
    commandsOn (joinLines lines) = lines := by
  have hsealed : ∀ text ∈ lines.map String.toList, Sealed (' ' :: separatorRest) text := by
    intro text htext
    obtain ⟨line, hline, rfl⟩ := List.mem_map.mp htext
    exact h line hline
  rw [commandsOn, joinLines, String.toList_intercalate, toList_separator,
    Text.cutAll_intercalate hsealed (mt List.map_eq_nil_iff.mp hne), List.map_map]
  exact List.map_id'' (fun line => String.ofList_toList) lines

/-! ## Commands -/

/-- The separator is nowhere in a text with no backslash. -/
theorem occurs_eq_false {text : List Char} (h : '\\' ∉ text) :
    Text.occurs separator.toList text = false :=
  Text.occurs_eq_false_of_not_mem (by decide) h

/-- What has no backslash is sealed by its last character. -/
theorem sealed_of_not_mem {text : String} {last : Char} (h : '\\' ∉ text.toList)
    (hlast : text.toList.getLast? = some last) (hmem : last ∉ separator.toList) :
    Sealed separator.toList text.toList := by
  obtain ⟨init, heq⟩ := List.getLast?_eq_some_iff.mp hlast
  rw [heq] at h ⊢
  have hinit : '\\' ∉ init := fun hbackslash => h (List.mem_append_left _ hbackslash)
  exact .single (occurs_eq_false hinit) hmem

namespace TmuxCommand

/-- The texts in a command that come from outside. -/
def texts : TmuxCommand → List String
  | newWindow name directory => name.toList ++ [directory]
  | splitWindow _ _ directory => [directory]
  | selectPane _ => []
  | setTitle text | sendKeys text | focusTitle text => [text]

section

variable {before text : String} (hbefore : '\\' ∉ before.toList)
  (htext : separator.occursIn text = false)

include hbefore htext

/-- A text is apart from what is around it by two characters that the separator does not
have. -/
theorem sealed_between {behind : String} {c d : Char} (hc : c ∉ separator.toList)
    (hd : d ∉ separator.toList) (hbehind : Sealed separator.toList behind.toList) :
    Sealed separator.toList (before.toList ++ c :: (text.toList ++ d :: behind.toList)) := by
  have hrest : Sealed separator.toList (text.toList ++ d :: behind.toList) :=
    hbehind.append_cons htext hd
  exact hrest.append_cons (occurs_eq_false hbefore) hc

/-- A text within a command is between its quotes. -/
theorem sealed_quoted_append {behind : String} (hbehind : Sealed separator.toList behind.toList) :
    Sealed separator.toList (before ++ quoted text ++ behind).toList := by
  have heq : (before ++ quoted text ++ behind).toList =
      before.toList ++ '"' :: (text.toList ++ '"' :: behind.toList) := by
    rw [String.toList_append, String.toList_append, toList_quoted, List.append_assoc,
      List.cons_append, List.append_assoc]
    rfl
  rw [heq]
  exact sealed_between hbefore htext (by decide) (by decide) hbehind

/-- A text at the end of a command is sealed by its quotes. -/
theorem sealed_append_quoted : Sealed separator.toList (before ++ quoted text).toList := by
  rw [String.toList_append, toList_quoted]
  have hquoted : Sealed separator.toList (text.toList ++ ['"']) := .single htext (by decide)
  exact hquoted.append_cons (occurs_eq_false hbefore) (by decide)

end

theorem sealed_splitWindow {directory : String} (h : separator.occursIn directory = false)
    (direction : Direction) (percent : Float) :
    Sealed separator.toList (splitWindow direction percent directory).text.toList := by
  have hflag : '\\' ∉ direction.flag.toList := fun hmem =>
    absurd ((isBare_flag direction).2 _ hmem) (by decide)
  have hpercent : '\\' ∉ (percentText percent).toList := fun hmem =>
    absurd ((isBare_percentText percent).2 _ hmem) (by decide)
  refine sealed_append_quoted ?_ h
  simp only [String.toList_append, List.mem_append, not_or]
  exact ⟨⟨⟨⟨by decide, hflag⟩, by decide⟩, hpercent⟩, by decide⟩

/-- The number of a pane ends with a digit. -/
theorem sealed_selectPane (target : Nat) :
    Sealed separator.toList (selectPane target).text.toList := by
  have hdigit : ∀ c ∈ (toString target).toList, c ∉ separator.toList := by
    intro c hc hmem
    have hany : separator.toList.any Char.isDigit = true :=
      List.any_eq_true.mpr ⟨c, hmem, Text.isDigit_of_mem_toString hc⟩
    exact absurd hany (by decide)
  have hbackslash : '\\' ∉ (toString target).toList := fun hmem => hdigit _ hmem (by decide)
  obtain hnil | ⟨init, last, hdigits⟩ := List.eq_nil_or_concat' (toString target).toList
  · exact absurd hnil (Text.toList_toString_ne_nil target)
  · have htext : (selectPane target).text.toList =
        "tmux select-pane -t ".toList ++ (toString target).toList := String.toList_append
    refine sealed_of_not_mem ?_ ?_ (hdigit last ?_)
    · rw [htext, List.mem_append, not_or]
      exact ⟨by decide, hbackslash⟩
    · rw [htext, hdigits, ← List.append_assoc, List.getLast?_concat]
    · rw [hdigits]
      exact List.mem_append_right _ (List.mem_singleton_self last)

theorem toList_append_quoted_append (before left title right : String) :
    (before ++ quoted (left ++ title ++ right)).toList =
      (before ++ "\"" ++ left).toList ++ (title.toList ++ (right ++ "\"").toList) := by
  simp only [quoted, String.toList_append, List.append_assoc]

/-- A title in the question for its pane is between a comma and a brace. -/
theorem sealed_focusTitle {title : String} (h : separator.occursIn title = false) :
    Sealed separator.toList (focusTitle title).text.toList := by
  have hbefore : ("tmux select-pane -t " ++ "\"" ++
      "$(tmux list-panes -F '#\x7b?#\x7b==:#\x7bpane_title\x7d,").toList =
      "tmux select-pane -t \"$(tmux list-panes -F '#\x7b?#\x7b==:#\x7bpane_title\x7d".toList ++
        [','] := rfl
  have hbehind : ("\x7d,#\x7bpane_index\x7d,\x7d' | grep -v '^$' | head -1)" ++ "\"").toList =
      '\x7d' :: ",#\x7bpane_index\x7d,\x7d' | grep -v '^$' | head -1)\"".toList := rfl
  have htext : (focusTitle title).text.toList = _ :=
    toList_append_quoted_append "tmux select-pane -t " _ title _
  rw [htext, hbefore, hbehind, List.append_assoc]
  exact sealed_between (by decide) h (by decide) (by decide)
    (sealed_of_not_mem (by decide) rfl (by decide))

/-- A command whose texts lack the separator is sealed: the separator is not in it, and does
not begin in it. -/
theorem sealed_text {command : TmuxCommand}
    (h : ∀ text ∈ command.texts, separator.occursIn text = false) :
    Sealed separator.toList command.text.toList := by
  cases command with
  | newWindow name directory =>
    have hdirectory := h directory (List.mem_append_right _ (List.mem_singleton_self _))
    cases name with
    | none => exact sealed_append_quoted (by decide) hdirectory
    | some name =>
      have htext : (newWindow (some name) directory).text =
          "tmux new-window -n " ++ quoted name ++ (" -c " ++ quoted directory) := by
        show "tmux new-window" ++ (" -n " ++ quoted name) ++ " -c " ++ quoted directory = _
        rw [← String.append_assoc, String.append_assoc]
        rfl
      rw [htext]
      exact sealed_quoted_append (by decide) (h name List.mem_cons_self)
        (sealed_append_quoted (by decide) hdirectory)
  | splitWindow direction percent directory =>
    exact sealed_splitWindow (h directory List.mem_cons_self) direction percent
  | selectPane target => exact sealed_selectPane target
  | setTitle title => exact sealed_append_quoted (by decide) (h title List.mem_cons_self)
  | sendKeys keys =>
    exact sealed_quoted_append (by decide) (h keys List.mem_cons_self)
      (sealed_of_not_mem (by decide) rfl (by decide))
  | focusTitle title => exact sealed_focusTitle (h title List.mem_cons_self)

end TmuxCommand

/-! ## Texts of a tree -/

/-- The texts that a pane gives. -/
def Pane.texts (pane : Pane) : List String :=
  pane.name.toList ++ pane.command.toList

/-- A leaf puts no texts into its commands but its own. -/
theorem mem_texts_of_paneSteps {pane : Pane} {index : Nat} {step : Step} {text : String}
    (hstep : step ∈ paneSteps pane index) (htext : text ∈ step.command.texts) :
    text ∈ pane.texts := by
  rw [paneSteps, List.mem_cons, List.mem_append, Option.mem_toList, Option.mem_toList] at hstep
  rw [Pane.texts, List.mem_append, Option.mem_toList, Option.mem_toList]
  obtain rfl | htitle | hkeys := hstep
  · cases htext
  · obtain ⟨title, hname, rfl⟩ := Option.map_eq_some_iff.mp htitle
    cases List.mem_singleton.mp htext
    exact .inl (Option.filter_eq_some_iff.mp hname).1
  · obtain ⟨keys, hcommand, rfl⟩ := Option.map_eq_some_iff.mp hkeys
    cases List.mem_singleton.mp htext
    exact .inr (Option.filter_eq_some_iff.mp hcommand).1

/-- The splits of a container have no text but the directory. -/
theorem eq_of_mem_texts_splits {directory : String} {frame : Frame} {childCount : Nat}
    {step : Step} {text : String} (hstep : step ∈ splits directory frame childCount)
    (htext : text ∈ step.command.texts) : text = directory := by
  obtain ⟨percent, hcommand⟩ := command_of_mem_splits hstep
  rw [hcommand] at htext
  exact List.mem_singleton.mp htext

mutual

/-- The texts in the commands of a node are the directory and those of its leaves. -/
theorem Node.mem_texts_of_commands (directory : String) (node : Node) (index : Nat) {step : Step}
    {text : String} (hstep : step ∈ node.commands directory index)
    (htext : text ∈ step.command.texts) :
    text = directory ∨ ∃ pane ∈ node.leaves, text ∈ pane.texts := by
  cases node with
  | pane pane =>
    exact .inr ⟨pane, List.mem_singleton_self pane, mem_texts_of_paneSteps hstep htext⟩
  | container frame children =>
    rw [Node.commands, List.cons_append, List.mem_cons, List.mem_append] at hstep
    obtain rfl | hsplit | hchild := hstep
    · cases htext
    · exact .inl (eq_of_mem_texts_splits hsplit htext)
    · exact mem_texts_of_childCommands directory children index hchild htext

theorem mem_texts_of_childCommands (directory : String) (nodes : List Node) (index : Nat)
    {step : Step} {text : String} (hstep : step ∈ childCommands directory nodes index)
    (htext : text ∈ step.command.texts) :
    text = directory ∨ ∃ pane ∈ Node.childLeaves nodes, text ∈ pane.texts := by
  cases nodes with
  | nil => cases hstep
  | cons node nodes =>
    rw [childCommands, List.mem_append] at hstep
    rw [Node.childLeaves]
    obtain hnode | hothers := hstep
    · exact (Node.mem_texts_of_commands directory node index hnode htext).imp_right
        fun ⟨pane, hpane, hmem⟩ => ⟨pane, List.mem_append_left _ hpane, hmem⟩
    · exact (mem_texts_of_childCommands directory nodes _ hothers htext).imp_right
        fun ⟨pane, hpane, hmem⟩ => ⟨pane, List.mem_append_right _ hpane, hmem⟩

end

namespace Layout

/-- The texts in the commands of a layout are the name of the window, the directory and those
of its panes. -/
theorem mem_texts_of_commands {layout : Layout} {directory window : Option String} {step : Step}
    {text : String} (hstep : step ∈ layout.commands directory window)
    (htext : text ∈ step.command.texts) :
    text ∈ window ∨ text = directory.getD currentPath ∨
      ∃ pane ∈ layout.leaves, text ∈ pane.texts := by
  rw [commands, buildCommands, focusCommands, List.mem_append, List.cons_append, List.mem_cons,
    List.mem_append, Option.mem_toList] at hstep
  obtain (rfl | hsplit | hchild) | hfocus := hstep
  · obtain hwindow | hdirectory := List.mem_append.mp htext
    · exact .inl (Option.mem_toList.mp hwindow)
    · exact .inr (.inl (List.mem_singleton.mp hdirectory))
  · exact .inr (.inl (eq_of_mem_texts_splits hsplit htext))
  · exact .inr (mem_texts_of_childCommands _ layout.children 1 hchild htext)
  · -- the title for focus is the name of a leaf
    obtain ⟨title, htitle, rfl⟩ := Option.map_eq_some_iff.mp hfocus
    cases List.mem_singleton.mp htext
    obtain ⟨pane, hpane, hname⟩ := Node.exists_of_focusTitle? layout.root htitle
    refine .inr (.inr ⟨pane, hpane, List.mem_append_left _ ?_⟩)
    exact Option.mem_toList.mpr (Option.filter_eq_some_iff.mp hname).1

/-- **The line of a layout is cut where its commands end.** When no name or command of a pane
has the separator, nor the directory or the name of the window, then cutting the line of the
compiled layout at every separator from the left gives the text of each command back, in
order, and there is one separator fewer than commands. A text may still begin or end with any
part of the separator. -/
theorem commandsOn_joinLines_of_compile {layout : Layout} {directory window : Option String}
    {steps : List Step} (h : layout.compile directory window = .ok steps)
    (hpanes : ∀ pane ∈ layout.leaves, ∀ text ∈ pane.texts, " \\; ".occursIn text = false)
    (hdirectory : ∀ text ∈ directory, " \\; ".occursIn text = false)
    (hwindow : ∀ text ∈ window, " \\; ".occursIn text = false) :
    let lines := steps.map Step.text
    commandsOn (joinLines lines) = lines ∧ separatorsOn (joinLines lines) = steps.length - 1 := by
  intro lines
  have hpath : separator.occursIn (directory.getD currentPath) = false := by
    cases directory with
    | none => rfl
    | some text => exact hdirectory text rfl
  have hsealed : ∀ line ∈ lines, Text.Sealed separator.toList line.toList := by
    intro line hline
    obtain ⟨step, hstep, rfl⟩ := List.mem_map.mp hline
    rw [eq_commands_of_compile h] at hstep
    refine TmuxCommand.sealed_text fun text htext => ?_
    obtain hmem | rfl | ⟨pane, hpane, hmem⟩ := mem_texts_of_commands hstep htext
    · exact hwindow text hmem
    · exact hpath
    · exact hpanes pane hpane text hmem
  -- there is always the new window, so there is a command on the line
  have hne : lines ≠ [] := by
    intro hnil
    have hsteps : layout.commands directory window = [] :=
      (eq_commands_of_compile h).symm.trans (List.map_eq_nil_iff.mp hnil)
    cases hsteps
  have hcut := commandsOn_joinLines hsealed hne
  refine ⟨hcut, ?_⟩
  have hlength := length_commandsOn (joinLines lines)
  rw [hcut, List.length_map] at hlength
  omega

/-- Every text begins and ends with a part of the separator. -/
theorem commandsOn_joinLines_of_compile_parts :
    let pane : Pane := (Pane.named "\\; \\").withCommand "; "
    let layout : Layout := ⟨none, .plain .horizontal,
      [.pane .blank, .container (.plain .vertical) [.pane pane.focused, .pane pane]]⟩
    let directory := some " \\"
    let window := some "\\; "
    ∃ steps, layout.compile directory window = .ok steps ∧
      (∀ pane ∈ layout.leaves, ∀ text ∈ pane.texts, " \\; ".occursIn text = false) ∧
      let lines := steps.map Step.text
      commandsOn (joinLines lines) = lines ∧ separatorsOn (joinLines lines) = steps.length - 1 := by
  intro pane layout directory window
  have hcompile : layout.compile directory window = .ok _ := rfl
  have hpanes : ∀ pane ∈ layout.leaves, ∀ text ∈ pane.texts, " \\; ".occursIn text = false := by
    decide
  exact ⟨_, hcompile, hpanes, commandsOn_joinLines_of_compile hcompile hpanes (by decide)
    (by decide)⟩

end Layout

end TmuxLayout
