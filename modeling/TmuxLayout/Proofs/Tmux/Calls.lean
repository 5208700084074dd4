import TmuxLayout.Execution
import TmuxLayout.Proofs.Tmux.Titles

/-!
# Calls of tmux

tmux takes the words of a call up to each `;` as one command and obeys one after
the other. The question for the pane with a title was answered before that: the
shell puts the answer into the line while the window is still as it was.

Only what is sure is said here. A line has no meaning where the shell or tmux
might read more into it than its words.

- `obeyCall`, `obey`: what the words of a command and a line do to a window.
- `ReachesTmux`: a runner whose lines go this way.
- `TmuxCommand.words`: the words of a command, its question answered.
- `TmuxCommand.parts`: the same as they stand in the text of the command.
- `TmuxCommand.obeyCall_words`: the words of a command do what the command does.
- `TmuxCommand.obey_text`: the text of a command does what the command does.
-/

namespace TmuxLayout

/-! ## Obeying -/

/-- Why nothing comes of a line. -/
inductive Refusal where
  | fault (fault : TmuxFault)
  /-- The line may mean more than its words. -/
  | unsure
deriving DecidableEq

/-- The number that a word writes. -/
def paneNumber (word : String) : Except Refusal Nat :=
  let number := Nat.ofDigitChars 10 word.toList 0
  if toString number = word then .ok number else .error .unsure

/-- Makes the pane with a number active; an empty word names the active one. -/
def Window.selectWord (w : Window Terminal) (word : String) :
    Except Refusal (Window Terminal) :=
  if word = "" then .ok w
  else do
    let number ← paneNumber word
    ((TmuxCommand.selectPane number).run w).mapError .fault

/-- Types keys into the pane with a number. -/
def Window.typeAt (w : Window Terminal) (word keys : String) :
    Except Refusal (Window Terminal) := do
  let number ← paneNumber word
  (w.modifyAt? number (.typed keys)).elim (.error (.fault (.noPane number))) .ok

/-- Whether tmux takes keys for an option. -/
def isOption (keys : String) : Bool :=
  keys.toList.head? = some '-'

/-- Types keys into the active pane, or into the pane that is named. -/
def Window.sendKeys (w : Window Terminal) : (words : List String) → Except Refusal (Window Terminal)
  | [keys, enter] =>
    if enter = "Enter" ∧ ¬ isOption keys then .ok (w.modify (.typed keys)) else .error .unsure
  | [flag, word, keys, enter] =>
    if flag = "-t" ∧ enter = "Enter" ∧ ¬ isOption keys then w.typeAt word keys
    else .error .unsure
  | _ => .error .unsure

/-- What the words of a command do. -/
def obeyCall (w : Window Terminal) : List String → Except Refusal (Window Terminal)
  | ["new-window", "-c", _] => .ok (.single .blank)
  | ["new-window", "-n", _, "-c", _] => .ok (.single .blank)
  | ["split-window", flag, "-p", _, "-c", _] =>
    if flag = "-h" ∨ flag = "-v" then .ok (w.split .blank) else .error .unsure
  | ["select-pane", "-t", word] => w.selectWord word
  | ["select-pane", "-T", title] =>
    if IsPlain title then .ok (w.modify (.titled title)) else .error .unsure
  | "send-keys" :: words => w.sendKeys words
  | _ => .error .unsure

/-- What a line does, if that is sure. -/
def obey (w : Window Terminal) (line : String) : Except Refusal (Window Terminal) :=
  match Line.words? (output? w) line with
  | some ("tmux" :: arguments) => (arguments.splitOn Line.semicolon).foldlM obeyCall w
  | _ => .error .unsure

/-- A runner that hands every line to a shell and tmux: a line that succeeds is none
that tmux refuses, and where it is sure what the line does, this was done. -/
def ReachesTmux {σ : Type} (runner : Runner σ) (window : σ → Window Terminal) : Prop :=
  ∀ {state : σ} {line : String} {output : CommandOutput} {after : σ},
    runner.run state line = (.ok output, after) → output.success →
      match obey (window state) line with
      | .ok w => window after = w
      | .error (.fault _) => False
      | .error .unsure => True

theorem paneNumber_toString (number : Nat) : paneNumber (toString number) = .ok number := by
  rw [paneNumber, Text.ofDigitChars_toString]
  exact if_pos rfl

theorem Window.selectWord_toString (w : Window Terminal) (number : Nat) :
    w.selectWord (toString number) = ((TmuxCommand.selectPane number).run w).mapError .fault := by
  have hne : toString number ≠ "" := Nat.repr_ne_empty
  rw [selectWord, if_neg hne, paneNumber_toString]
  rfl

/-- Keys that are aimed at the active pane are typed into it. -/
theorem obeyCall_activeIndex (w : Window Terminal) {keys : String} (h : ¬ isOption keys) :
    obeyCall w ["send-keys", "-t", toString w.activeIndex, keys, "Enter"] =
      .ok (w.modify (.typed keys)) := by
  refine (if_pos ⟨rfl, rfl, h⟩).trans ?_
  rw [Window.typeAt, paneNumber_toString]
  show (w.modifyAt? w.activeIndex (.typed keys)).elim _ _ = _
  rw [w.modifyAt?_activeIndex]
  rfl

/-- A call with several commands does what their words do, one after the other. -/
theorem obey_calls {w : Window Terminal} {texts : List String} {calls : List (List String)}
    (h : Line.AreCalls (output? w) texts calls) (hne : texts ≠ []) :
    obey w ("tmux " ++ separator.intercalate texts) = calls.foldlM obeyCall w := by
  obtain ⟨arguments, hwords, hsplit⟩ := h.words?_eq hne
  rw [obey, hwords]
  show (arguments.splitOn Line.semicolon).foldlM obeyCall w = _
  rw [hsplit]

/-! ## The words of commands -/

namespace TmuxCommand

/-- The words of a command when the question for a title is asked in a window. -/
def words (w : Window Terminal) : TmuxCommand → List String
  | newWindow name directory =>
    "new-window" :: (name.elim [] fun name => ["-n", name]) ++ ["-c", directory]
  | splitWindow direction percent directory =>
    ["split-window", direction.flag, "-p", percentText percent, "-c", directory]
  | selectPane target => ["select-pane", "-t", toString target]
  | setTitle title => ["select-pane", "-T", title]
  | sendKeys keys => ["send-keys", keys, "Enter"]
  | focusTitle title => ["select-pane", "-t", w.answer title]

/-- Whether the texts of a command mean nothing but themselves. -/
def IsReadable : TmuxCommand → Prop
  | newWindow name directory => (∀ text ∈ name, Line.IsQuotable text) ∧ Line.IsQuotable directory
  | splitWindow _ _ directory => Line.IsQuotable directory
  | selectPane _ => True
  | setTitle title => IsPlain title
  | sendKeys keys => IsPlain keys ∧ ¬ isOption keys
  | focusTitle title => IsPlain title

/-- The words of a command as they stand in its text. -/
def parts : TmuxCommand → List String
  | newWindow name directory =>
    "new-window" :: (name.elim [] fun name => ["-n", quoted name]) ++ ["-c", quoted directory]
  | splitWindow direction percent directory =>
    ["split-window", direction.flag, "-p", percentText percent, "-c", quoted directory]
  | selectPane target => ["select-pane", "-t", toString target]
  | setTitle title => ["select-pane", "-T", quoted title]
  | sendKeys keys => ["send-keys", quoted keys, "Enter"]
  | focusTitle title => ["select-pane", "-t", quoted (paneWithTitle title)]

/-- The text of a command is its parts with blanks between them. -/
theorem text_eq (command : TmuxCommand) :
    command.text = "tmux " ++ " ".intercalate command.parts := by
  -- each literal is taken apart at its blanks; then both sides are the same pieces
  have hc : " -c " = " " ++ ("-c" ++ " ") := rfl
  have ht : "tmux select-pane -t " = "tmux " ++ ("select-pane" ++ (" " ++ ("-t" ++ " "))) := rfl
  cases command with
  | newWindow name directory =>
    have hverb : "tmux new-window" = "tmux " ++ "new-window" := rfl
    have hn : " -n " = " " ++ ("-n" ++ " ") := rfl
    cases name with
    | none =>
      show "tmux new-window" ++ "" ++ " -c " ++ quoted directory =
        "tmux " ++ " ".intercalate ["new-window", "-c", quoted directory]
      rw [hverb, hc]
      simp only [String.intercalate_cons_cons, String.intercalate_singleton, String.append_assoc,
        String.empty_append]
    | some name =>
      show "tmux new-window" ++ (" -n " ++ quoted name) ++ " -c " ++ quoted directory =
        "tmux " ++ " ".intercalate ["new-window", "-n", quoted name, "-c", quoted directory]
      rw [hverb, hn, hc]
      simp only [String.intercalate_cons_cons, String.intercalate_singleton, String.append_assoc]
  | splitWindow direction percent directory =>
    have hverb : "tmux split-window " = "tmux " ++ ("split-window" ++ " ") := rfl
    have hp : " -p " = " " ++ ("-p" ++ " ") := rfl
    show "tmux split-window " ++ direction.flag ++ " -p " ++ percentText percent ++ " -c " ++
      quoted directory = _
    rw [hverb, hp, hc, parts]
    simp only [String.intercalate_cons_cons, String.intercalate_singleton, String.append_assoc]
  | selectPane target =>
    show "tmux select-pane -t " ++ toString target = _
    rw [ht, parts]
    simp only [String.intercalate_cons_cons, String.intercalate_singleton, String.append_assoc]
  | setTitle title =>
    have hverb : "tmux select-pane -T " = "tmux " ++ ("select-pane" ++ (" " ++ ("-T" ++ " "))) :=
      rfl
    show "tmux select-pane -T " ++ quoted title = _
    rw [hverb, parts]
    simp only [String.intercalate_cons_cons, String.intercalate_singleton, String.append_assoc]
  | sendKeys keys =>
    have hverb : "tmux send-keys " = "tmux " ++ ("send-keys" ++ " ") := rfl
    have hlast : " Enter" = " " ++ "Enter" := rfl
    show "tmux send-keys " ++ quoted keys ++ " Enter" = _
    rw [hverb, hlast, parts]
    simp only [String.intercalate_cons_cons, String.intercalate_singleton, String.append_assoc]
  | focusTitle title =>
    show "tmux select-pane -t " ++ quoted (paneWithTitle title) = _
    rw [ht, parts]
    simp only [String.intercalate_cons_cons, String.intercalate_singleton, String.append_assoc]

end TmuxCommand

theorem isBare_percentText (percent : Float) : Line.IsBare (percentText percent) := by
  rw [percentText]
  split
  · decide
  · split
    · split <;> decide
    · cases within64Bits (Binary64.truncate percent) with
      | ofNat n => exact Line.isBare_toString n
      | negSucc n => exact Line.isBare_minus (Line.isBare_toString (n + 1))

theorem isBare_flag (direction : Direction) : Line.IsBare direction.flag := by
  cases direction <;> decide

namespace TmuxCommand

open Line in
/-- The parts of a command are read as its words. -/
theorem isCall_parts (w : Window Terminal) {command : TmuxCommand} (h : command.IsReadable) :
    IsCall (output? w) (" ".intercalate command.parts) (command.words w) := by
  cases command with
  | newWindow name directory =>
    obtain ⟨hname, hdirectory⟩ := h
    refine isCall_intercalate ?_ (List.cons_ne_nil _ _)
    refine .cons (isCall_bare _ (by decide)) (List.rel_append ?_
      (.cons (isCall_bare _ (by decide)) (.cons (isCall_quoted hdirectory) .nil)))
    cases name with
    | none => exact .nil
    | some name =>
      exact .cons (isCall_bare _ (by decide)) (.cons (isCall_quoted (hname name rfl)) .nil)
  | splitWindow direction percent directory =>
    exact isCall_intercalate (.cons (isCall_bare _ (by decide))
      (.cons (isCall_bare _ (isBare_flag direction)) (.cons (isCall_bare _ (by decide))
        (.cons (isCall_bare _ (isBare_percentText percent)) (.cons (isCall_bare _ (by decide))
          (.cons (isCall_quoted h) .nil)))))) (List.cons_ne_nil _ _)
  | selectPane target =>
    exact isCall_intercalate (.cons (isCall_bare _ (by decide)) (.cons (isCall_bare _ (by decide))
      (.cons (isCall_bare _ (isBare_toString target)) .nil))) (List.cons_ne_nil _ _)
  | setTitle title =>
    exact isCall_intercalate (.cons (isCall_bare _ (by decide)) (.cons (isCall_bare _ (by decide))
      (.cons (isCall_quoted h.isQuotable) .nil))) (List.cons_ne_nil _ _)
  | sendKeys keys =>
    exact isCall_intercalate (.cons (isCall_bare _ (by decide))
      (.cons (isCall_quoted h.1.isQuotable) (.cons (isCall_bare _ (by decide)) .nil)))
      (List.cons_ne_nil _ _)
  | focusTitle title =>
    exact isCall_intercalate (.cons (isCall_bare _ (by decide)) (.cons (isCall_bare _ (by decide))
      (.cons (h.isCall_paneWithTitle w) .nil))) (List.cons_ne_nil _ _)

/-- The words of a command do what the command does, unless they hold an answer. -/
theorem obeyCall_words {command : TmuxCommand} (h : command.IsReadable)
    (hfocus : ∀ title, command ≠ .focusTitle title) (asked w : Window Terminal) :
    obeyCall w (command.words asked) = (command.run w).mapError .fault := by
  cases command with
  | newWindow name directory => cases name <;> rfl
  | splitWindow direction percent directory => cases direction <;> rfl
  | selectPane target => exact w.selectWord_toString target
  | setTitle title => exact if_pos h
  | sendKeys keys => exact if_pos ⟨rfl, h.2⟩
  | focusTitle title => exact absurd rfl (hfocus title)

/-- The words that hold an answer select the pane that had the title. -/
theorem obeyCall_focusTitle (asked w : Window Terminal) (title : String) :
    obeyCall w ((focusTitle title).words asked) =
      (asked.paneTitled? title).elim (.ok w) fun index =>
        ((selectPane index).run w).mapError .fault := by
  show w.selectWord (asked.answer title) = _
  rw [asked.answer_eq]
  cases asked.paneTitled? title with
  | none => exact if_pos rfl
  | some index => exact w.selectWord_toString index

/-- The text of a command does what the command does. -/
theorem obey_text {command : TmuxCommand} (h : command.IsReadable) (w : Window Terminal) :
    obey w command.text = (command.run w).mapError .fault := by
  have hline := obey_calls (.cons (isCall_parts w h) .nil) (List.cons_ne_nil _ [])
  have hsingle : [command.words w].foldlM obeyCall w = obeyCall w (command.words w) := by
    rw [List.foldlM_cons]
    exact bind_pure _
  rw [String.intercalate_singleton, ← text_eq, hsingle] at hline
  rw [hline]
  -- the answer was taken in the window that the command is run in
  by_cases hfocus : ∃ title, command = .focusTitle title
  · obtain ⟨title, rfl⟩ := hfocus
    rw [obeyCall_focusTitle, run_focusTitle]
    cases w.paneTitled? title with
    | none => rfl
    | some index => rfl
  · exact obeyCall_words h (fun title heq => hfocus ⟨title, heq⟩) w w

end TmuxCommand

end TmuxLayout
