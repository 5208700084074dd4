import Mathlib.Data.List.Forall2
import TmuxLayout.Proofs.Text.Numeral
import TmuxLayout.Tmux

/-!
# The words of a line

A line goes through a shell before tmux sees it. The shell cuts it into words and
replaces what stands within `$(...)` by the output of that command, all before
tmux starts. Of the shell there is only what lines for tmux use: any other sign
leaves a line without a reading.

- `Line.Scan`, `Line.words?`: the words of a line, read character by character.
- `Line.Reads`: whatever was read before, a text is read as words. `reads_bare`,
  `reads_quoted` and `reads_output` are the kinds of words, `Reads.append` is a
  blank between them.
- `Line.IsCall`, `Line.AreCalls.words?_eq`: a line with several commands is read as
  the words of each.
-/

namespace TmuxLayout.Line

/-! ## Scanning -/

/-- Where in a line the shell is. -/
inductive Mode where
  /-- Between words. -/
  | blank
  /-- Within a word. -/
  | bare
  /-- Behind a backslash. -/
  | escaped
  /-- Within double quotes. -/
  | quoted
  /-- Behind a dollar sign within double quotes. -/
  | dollar
  /-- Within a command whose output is put in its place. -/
  | inside (command : List Char)
  /-- Behind a sign that may mean anything. -/
  | lost

/-- The words that were read, and the one that is being read. -/
structure Scan where
  mode : Mode
  words : List String
  word : List Char

/-- Whether a character stands for itself outside quotes. -/
def isBare (c : Char) : Bool :=
  c.isAlphanum || c = '-'

/-- Whether a character stands for itself within double quotes, and ends no command
of tmux there. -/
def isQuotable (c : Char) : Bool :=
  !"\"$`\\;".toList.contains c

namespace Scan

/-- Goes on in a mode, with characters added to the word. -/
def push (s : Scan) (mode : Mode) (chars : List Char) : Scan :=
  ⟨mode, s.words, s.word ++ chars⟩

/-- Ends the word. -/
def finish (s : Scan) : Scan :=
  ⟨.blank, s.words ++ [String.ofList s.word], []⟩

/-- Gives up. -/
def lose (s : Scan) : Scan :=
  s.push .lost []

/-- Reads one more character. -/
def step (output? : String → Option String) (s : Scan) (c : Char) : Scan :=
  match s.mode with
  | .blank =>
    if isBare c then s.push .bare [c]
    else match c with
      | ' ' => s
      | '"' => s.push .quoted []
      | '\\' => s.push .escaped []
      | _ => s.lose
  | .bare =>
    if isBare c then s.push .bare [c]
    else match c with
      | ' ' => s.finish
      | _ => s.lose
  | .escaped =>
    match c with
    | ';' => s.push .bare [';']
    | _ => s.lose
  | .quoted =>
    if isQuotable c then s.push .quoted [c]
    else match c with
      | '"' => s.push .bare []
      | '$' => s.push .dollar []
      | _ => s.lose
  | .dollar =>
    match c with
    | '(' => s.push (.inside []) []
    | _ => s.lose
  | .inside command =>
    if c = ')' then
      (output? (String.ofList command)).elim s.lose fun text => s.push .quoted text.toList
    else s.push (.inside (command ++ [c])) []
  | .lost => s

/-- All words, the last one ended. -/
def words? (s : Scan) : Option (List String) :=
  match s.mode with
  | .blank => some s.words
  | .bare => some s.finish.words
  | _ => none

end Scan

/-- The words of a line. The output of the commands within it is given; where there
is none, or where the line is none that tmux is called with, there are no words. -/
def words? (output? : String → Option String) (line : String) : Option (List String) :=
  (line.toList.foldl (Scan.step output?) ⟨.blank, [], []⟩).words?

variable {output? : String → Option String}

/-- A text is read as words, behind whatever words there are. -/
def Reads (output? : String → Option String) (text : List Char) (words : List String) : Prop :=
  ∀ before, ∃ init last, words = init ++ [String.ofList last] ∧
    text.foldl (Scan.step output?) ⟨.blank, before, []⟩ = ⟨.bare, before ++ init, last⟩

/-- What characters are read as is what the line is split into. -/
theorem words?_of_reads {line : String} {words : List String}
    (h : Reads output? line.toList words) : words? output? line = some words := by
  obtain ⟨init, last, heq, hfold⟩ := h []
  rw [words?, hfold, heq]
  rfl

/-- A blank ends a word. -/
theorem Reads.append {text rest : List Char} {words others : List String}
    (h : Reads output? text words) (hrest : Reads output? rest others) :
    Reads output? (text ++ ' ' :: rest) (words ++ others) := by
  intro before
  obtain ⟨init, last, heq, hfold⟩ := h before
  obtain ⟨init', last', heq', hfold'⟩ := hrest (before ++ words)
  refine ⟨words ++ init', last', ?_, ?_⟩
  · rw [heq', List.append_assoc]
  · have hblank : Scan.step output? ⟨.bare, before ++ init, last⟩ ' ' =
        ⟨.blank, before ++ words, []⟩ := by
      rw [heq, ← List.append_assoc]
      rfl
    rw [List.foldl_append, hfold, List.foldl_cons, hblank, hfold', List.append_assoc]

-- the answer to a question stands in the line like any other word
example :
    words? (fun _ => some "7") "tmux select-pane -t \"$(ask)\" \\; send-keys \"ls -l\" Enter" =
      some ["tmux", "select-pane", "-t", "7", ";", "send-keys", "ls -l", "Enter"] := by
  rfl

/-! ## Kinds of words -/

/-- A word of characters that stand for themselves. -/
def IsBare (word : String) : Prop :=
  word ≠ "" ∧ ∀ c ∈ word.toList, isBare c

/-- A text of characters that stand for themselves within double quotes. -/
def IsQuotable (text : String) : Prop :=
  ∀ c ∈ text.toList, isQuotable c

instance : DecidablePred IsBare := fun word =>
  have := List.decidableBAll (isBare · = true) word.toList
  inferInstanceAs (Decidable (word ≠ "" ∧ ∀ c ∈ word.toList, isBare c))

instance : DecidablePred IsQuotable := fun text =>
  List.decidableBAll (isQuotable · = true) text.toList

theorem isBare_toString (n : Nat) : IsBare (toString n) := by
  refine ⟨Nat.repr_ne_empty, fun c hc => ?_⟩
  rw [isBare, Char.isAlphanum, Text.isDigit_of_mem_toString hc, Bool.or_true, Bool.true_or]

theorem isBare_minus {word : String} (h : IsBare word) : IsBare ("-" ++ word) := by
  have htext : ("-" ++ word).toList = '-' :: word.toList := String.toList_append
  refine ⟨fun hnil => ?_, fun c hc => ?_⟩
  · rw [hnil] at htext
    cases htext
  · rw [htext] at hc
    obtain rfl | hword := List.mem_cons.mp hc
    · rfl
    · exact h.2 c hword

theorem step_bare {c : Char} (h : isBare c) (before : List String) (word : List Char) :
    Scan.step output? ⟨.bare, before, word⟩ c = ⟨.bare, before, word ++ [c]⟩ :=
  if_pos h

theorem step_quoted {c : Char} (h : isQuotable c) (before : List String) (word : List Char) :
    Scan.step output? ⟨.quoted, before, word⟩ c = ⟨.quoted, before, word ++ [c]⟩ :=
  if_pos h

/-- Characters that stand for themselves in a mode are added to the word. -/
theorem foldl_stay {mode : Mode} {text : List Char}
    (h : ∀ c ∈ text, ∀ before word,
      Scan.step output? ⟨mode, before, word⟩ c = ⟨mode, before, word ++ [c]⟩)
    (before : List String) (word : List Char) :
    text.foldl (Scan.step output?) ⟨mode, before, word⟩ = ⟨mode, before, word ++ text⟩ := by
  induction text generalizing word with
  | nil => rw [List.append_nil]; rfl
  | cons c text ih =>
    rw [List.foldl_cons, h c List.mem_cons_self,
      ih fun d hd => h d (List.mem_cons_of_mem c hd), List.append_assoc]
    rfl

/-- What stands within a command is kept until its end. -/
theorem foldl_inside {text : List Char} (h : ')' ∉ text) (before : List String)
    (word command : List Char) :
    text.foldl (Scan.step output?) ⟨.inside command, before, word⟩ =
      ⟨.inside (command ++ text), before, word⟩ := by
  induction text generalizing command with
  | nil => rw [List.append_nil]; rfl
  | cons c text ih =>
    have hne : c ≠ ')' := fun heq => h (heq ▸ List.mem_cons_self)
    have hstep : Scan.step output? ⟨.inside command, before, word⟩ c =
        ⟨.inside (command ++ [c]), before, word⟩ := by
      refine (if_neg hne).trans ?_
      rw [Scan.push, List.append_nil]
    rw [List.foldl_cons, hstep, ih fun hmem => h (List.mem_cons_of_mem c hmem),
      List.append_assoc]
    rfl

/-- A closing quote ends no word. -/
theorem step_closing (before : List String) (word : List Char) :
    Scan.step output? ⟨.quoted, before, word⟩ '"' = ⟨.bare, before, word⟩ := by
  show Scan.push _ _ _ = _
  rw [Scan.push, List.append_nil]

/-- A word without quotes. -/
theorem reads_bare {word : String} (h : IsBare word) : Reads output? word.toList [word] := by
  obtain ⟨hne, hbare⟩ := h
  intro before
  refine ⟨[], word.toList, by rw [String.ofList_toList]; rfl, ?_⟩
  cases htext : word.toList with
  | nil => exact absurd (String.toList_eq_nil_iff.mp htext) hne
  | cons c text =>
    rw [htext] at hbare
    have hstep : Scan.step output? ⟨.blank, before, []⟩ c = ⟨.bare, before, [c]⟩ :=
      if_pos (hbare c List.mem_cons_self)
    rw [List.foldl_cons, hstep,
      foldl_stay fun d hd => step_bare (hbare d (List.mem_cons_of_mem c hd)),
      List.append_nil]
    rfl

/-- A word in double quotes. -/
theorem reads_quoted {word : String} (h : IsQuotable word) :
    Reads output? (TmuxCommand.quoted word).toList [word] := by
  intro before
  refine ⟨[], word.toList, by rw [String.ofList_toList]; rfl, ?_⟩
  have hopen : Scan.step output? ⟨.blank, before, []⟩ '"' = ⟨.quoted, before, []⟩ := rfl
  rw [TmuxCommand.toList_quoted, List.foldl_cons, hopen, List.foldl_append,
    foldl_stay fun c hc => step_quoted (h c hc), List.nil_append,
    List.foldl_cons, step_closing, List.append_nil]
  rfl

/-- A word in double quotes that is the output of a command. -/
theorem reads_output {command text : String} (h : ')' ∉ command.toList)
    (houtput : output? command = some text) :
    Reads output? (TmuxCommand.quoted ("$(" ++ command ++ ")")).toList [text] := by
  intro before
  refine ⟨[], text.toList, by rw [String.ofList_toList]; rfl, ?_⟩
  have htext : (TmuxCommand.quoted ("$(" ++ command ++ ")")).toList =
      ['"', '$', '('] ++ (command.toList ++ [')', '"']) := by
    simp only [TmuxCommand.quoted, String.toList_append, List.append_assoc]
    rfl
  have hopen : ['"', '$', '('].foldl (Scan.step output?) ⟨.blank, before, []⟩ =
      ⟨.inside [], before, []⟩ := rfl
  have hend : Scan.step output? ⟨.inside command.toList, before, []⟩ ')' =
      ⟨.quoted, before, text.toList⟩ := by
    show (output? (String.ofList command.toList)).elim _ _ = _
    rw [String.ofList_toList, houtput]
    rfl
  rw [htext, List.foldl_append, hopen, List.foldl_append, foldl_inside h, List.nil_append,
    List.foldl_cons, hend, List.foldl_cons, step_closing, List.append_nil]
  rfl

/-! ## Several commands -/

/-- The word between commands. -/
def semicolon : String := ";"

/-- A text is read as the words of one command. -/
structure IsCall (output? : String → Option String) (text : String) (words : List String) :
    Prop where
  reads : Reads output? text.toList words
  not_mem : semicolon ∉ words

theorem isCall_bare (word : String) (h : IsBare word) : IsCall output? word [word] := by
  refine ⟨reads_bare h, fun hmem => ?_⟩
  rw [← List.mem_singleton.mp hmem] at h
  exact absurd h (by decide)

/-- A word in quotes is the word. -/
theorem isCall_quoted {word : String} (h : IsQuotable word) :
    IsCall output? (TmuxCommand.quoted word) [word] := by
  refine ⟨reads_quoted h, fun hmem => ?_⟩
  rw [← List.mem_singleton.mp hmem] at h
  exact absurd h (by decide)

/-- A command between `$(` and `)`, in quotes, is the word that it prints. -/
theorem isCall_output {command text : String} (h : ')' ∉ command.toList)
    (houtput : output? command = some text) (hne : text ≠ semicolon) :
    IsCall output? (TmuxCommand.quoted ("$(" ++ command ++ ")")) [text] :=
  ⟨reads_output h houtput, fun hmem => hne (List.mem_singleton.mp hmem).symm⟩

/-- Words that stand behind each other are read one after the other. -/
theorem IsCall.append {text rest : String} {words others : List String}
    (h : IsCall output? text words) (hrest : IsCall output? rest others) :
    IsCall output? (text ++ " " ++ rest) (words ++ others) := by
  refine ⟨?_, fun hmem => ?_⟩
  · rw [String.toList_append, String.toList_append, List.append_assoc]
    exact h.reads.append hrest.reads
  · obtain hword | hother := List.mem_append.mp hmem
    · exact h.not_mem hword
    · exact hrest.not_mem hother

/-- Words with blanks between them make up a command. -/
theorem isCall_intercalate {parts words : List String}
    (h : List.Forall₂ (fun part word => IsCall output? part [word]) parts words)
    (hne : parts ≠ []) : IsCall output? (" ".intercalate parts) words := by
  induction h with
  | nil => exact absurd rfl hne
  | cons hpart hparts ih =>
    cases hparts with
    | nil =>
      rw [String.intercalate_singleton]
      exact hpart
    | cons _ _ =>
      rw [String.intercalate_cons_cons]
      exact hpart.append (ih (List.cons_ne_nil _ _))

/-- Texts are read as the words of one command each. -/
def AreCalls (output? : String → Option String) : List String → List (List String) → Prop :=
  List.Forall₂ (IsCall output?)

theorem AreCalls.not_mem {texts : List String} {calls : List (List String)}
    (h : AreCalls output? texts calls) : ∀ words ∈ calls, semicolon ∉ words := by
  induction h with
  | nil => exact fun _ hcall => absurd hcall List.not_mem_nil
  | cons hcall _ ih => exact List.forall_mem_cons.mpr ⟨hcall.not_mem, ih⟩

/-- A semicolon behind a backslash is a word. -/
theorem reads_semicolon : Reads output? ['\\', ';'] [semicolon] :=
  fun before => ⟨[], [';'], rfl, by rw [List.append_nil]; rfl⟩

/-- Commands with separators between them are read as their words with a `;`
between them. -/
theorem AreCalls.reads {texts : List String} {calls : List (List String)}
    (h : AreCalls output? texts calls) (hne : texts ≠ []) :
    Reads output? (separator.intercalate texts).toList ([semicolon].intercalate calls) := by
  induction h with
  | nil => exact absurd rfl hne
  | cons hcall hcalls ih =>
    cases hcalls with
    | nil =>
      rw [String.intercalate_singleton, List.intercalate_singleton]
      exact hcall.reads
    | cons hnext hrest =>
      have hothers := ih (List.cons_ne_nil _ _)
      rw [String.intercalate_cons_cons, List.intercalate_cons_cons, String.toList_append,
        String.toList_append, List.append_assoc, List.append_assoc]
      exact hcall.reads.append (reads_semicolon.append hothers)

/-- One call of tmux with several commands is read as the words of each. -/
theorem AreCalls.words?_eq {texts : List String} {calls : List (List String)}
    (h : AreCalls output? texts calls) (hne : texts ≠ []) :
    ∃ arguments, words? output? ("tmux " ++ separator.intercalate texts) =
        some ("tmux" :: arguments) ∧
      arguments.splitOn semicolon = calls := by
  refine ⟨[semicolon].intercalate calls, ?_, ?_⟩
  · have htmux : Reads output? "tmux".toList ["tmux"] := reads_bare (by decide)
    refine words?_of_reads ?_
    rw [String.toList_append]
    exact htmux.append (h.reads hne)
  · refine List.splitOn_intercalate _ h.not_mem fun hnil => hne ?_
    rw [hnil] at h
    exact List.forall₂_nil_right_iff.mp h

end TmuxLayout.Line
