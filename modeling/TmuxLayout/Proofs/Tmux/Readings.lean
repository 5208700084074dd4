import TmuxLayout.Proofs.Text.Splitting
import TmuxLayout.Proofs.Tmux.Calls

/-!
# Commands are told by their texts

Texts from outside stand in a command as they are, and may look like any part of another
command. Still no two commands have the same text. The fixed words that a command begins with
tell its kind, since none of them goes on as another one does. Behind them there is one field
that may hold anything, with fixed words around it. What stands before this field ends at the
first blank, when it is a percentage, or at the first quote, when it is the name of a window.
So a quote matters in the name of a window, and nowhere else.

- `TmuxCommand.Reading`, `TmuxCommand.reading`: what the text of a command tells.
- `TmuxCommand.Opening`: the fixed words that commands begin with; `Opening.eq_of_append_eq`
  says that they are a prefix code.
- `TmuxCommand.text_eq_append`: the text of a command is its opening and its body.
- `TmuxCommand.text_eq_iff`: commands have the same text exactly when they are read the same.
-/

namespace TmuxLayout.TmuxCommand

/-! ## Readings -/

/-- What the text of a command tells: all of the command, but of a percentage only how it is
printed. -/
inductive Reading where
  | newWindow (name : Option String) (directory : String)
  | splitWindow (direction : Direction) (percent directory : String)
  | selectPane (target : Nat)
  | setTitle (title : String)
  | sendKeys (keys : String)
  | focusTitle (title : String)
deriving DecidableEq

/-- The command with its percentage as it is printed. -/
def reading : TmuxCommand → Reading
  | newWindow name directory => .newWindow name directory
  | splitWindow direction percent directory =>
    .splitWindow direction (percentText percent) directory
  | selectPane target => .selectPane target
  | setTitle title => .setTitle title
  | sendKeys keys => .sendKeys keys
  | focusTitle title => .focusTitle title

/-- The name that a command gives to a window. -/
def windowName? : TmuxCommand → Option String
  | newWindow name _ => name
  | _ => none

/-! ## Openings -/

/-- How a command begins. -/
inductive Opening where
  | namedWindow
  | window
  | split (direction : Direction)
  /-- A pane is selected by its number, or by what is asked for a title. -/
  | target
  | title
  | keys
deriving DecidableEq

namespace Opening

/-- The fixed words that a command begins with. -/
def text : Opening → String
  | namedWindow => "tmux new-window -n "
  | window => "tmux new-window -c "
  | split direction => "tmux split-window " ++ direction.flag ++ " -p "
  | target => "tmux select-pane -t "
  | title => "tmux select-pane -T "
  | keys => "tmux send-keys "

/-- All openings. -/
def all : List Opening :=
  [namedWindow, window, split .horizontal, split .vertical, target, title, keys]

theorem mem_all (opening : Opening) : opening ∈ all := by
  cases opening with
  | split direction => cases direction <;> decide
  | _ => decide

/-- No opening goes on as another one does. -/
theorem eq_of_isPrefix {opening other : Opening} (h : opening.text.toList <+: other.text.toList) :
    opening = other := by
  have hall : ∀ opening ∈ all, ∀ other ∈ all,
      opening.text.toList.isPrefixOf other.text.toList = true → opening = other := by
    decide +kernel
  exact hall opening opening.mem_all other other.mem_all (List.isPrefixOf_iff_prefix.mpr h)

/-- Texts that are the same begin with the same opening, and go on the same. -/
theorem eq_of_append_eq {opening other : Opening} {rest behind : String}
    (h : opening.text ++ rest = other.text ++ behind) : opening = other ∧ rest = behind := by
  have hlist : opening.text.toList ++ rest.toList = other.text.toList ++ behind.toList := by
    rw [← String.toList_append, h, String.toList_append]
  have hopening : opening = other := by
    have hother : other.text.toList <+: opening.text.toList ++ rest.toList :=
      hlist ▸ List.prefix_append _ _
    obtain hprefix | hprefix :=
      List.prefix_or_prefix_of_prefix (List.prefix_append _ _) hother
    · exact eq_of_isPrefix hprefix
    · exact (eq_of_isPrefix hprefix).symm
  subst hopening
  exact ⟨rfl, (String.append_right_inj _).mp h⟩

end Opening

/-! ## Bodies -/

/-- How a command begins. -/
def opening : TmuxCommand → Opening
  | newWindow (some _) _ => .namedWindow
  | newWindow none _ => .window
  | splitWindow direction _ _ => .split direction
  | selectPane _ | focusTitle _ => .target
  | setTitle _ => .title
  | sendKeys _ => .keys

/-- What stands behind the fixed words that a command begins with. -/
def body : TmuxCommand → String
  | newWindow (some name) directory => quoted name ++ (" -c " ++ quoted directory)
  | newWindow none directory => quoted directory
  | splitWindow _ percent directory => percentText percent ++ (" -c " ++ quoted directory)
  | selectPane target => toString target
  | setTitle title => quoted title
  | sendKeys keys => quoted keys ++ " Enter"
  | focusTitle title => quoted (paneWithTitle title)

/-- The text of a command is its opening and its body. -/
theorem text_eq_append (command : TmuxCommand) :
    command.text = command.opening.text ++ command.body := by
  cases command with
  | newWindow name directory =>
    cases name with
    | none => rfl
    | some name =>
      have hopening : "tmux new-window -n " = "tmux new-window" ++ " -n " := rfl
      show "tmux new-window" ++ (" -n " ++ quoted name) ++ " -c " ++ quoted directory =
        "tmux new-window -n " ++ (quoted name ++ (" -c " ++ quoted directory))
      rw [hopening]
      simp only [String.append_assoc]
  | splitWindow direction percent directory =>
    show "tmux split-window " ++ direction.flag ++ " -p " ++ percentText percent ++ " -c " ++
      quoted directory = "tmux split-window " ++ direction.flag ++ " -p " ++
        (percentText percent ++ (" -c " ++ quoted directory))
    simp only [String.append_assoc]
  | selectPane target => rfl
  | setTitle title => rfl
  | sendKeys keys => exact String.append_assoc
  | focusTitle title => rfl

theorem quoted_inj {text other : String} : quoted text = quoted other ↔ text = other := by
  rw [quoted, quoted, String.append_left_inj, String.append_right_inj]

theorem paneWithTitle_inj {title other : String} :
    paneWithTitle title = paneWithTitle other ↔ title = other := by
  unfold paneWithTitle
  rw [String.append_left_inj, String.append_right_inj]

/-- A text that lacks the quote ends at the quote behind it. -/
theorem quoted_append_inj {text other rest behind : String} (htext : '"' ∉ text.toList)
    (hother : '"' ∉ other.toList) (h : quoted text ++ rest = quoted other ++ behind) :
    text = other ∧ rest = behind := by
  have hlist (text rest : String) :
      (quoted text ++ rest).toList = '"' :: (text.toList ++ '"' :: rest.toList) := by
    rw [String.toList_append, toList_quoted, List.cons_append, List.append_assoc]
    rfl
  have heq := congrArg String.toList h
  rw [hlist, hlist, List.cons_inj_right] at heq
  obtain ⟨hfield, hrest⟩ := Text.append_cons_inj htext hother heq
  exact ⟨String.toList_inj.mp hfield, String.toList_inj.mp hrest⟩

/-- A percentage has no blank, so it ends at the blank behind it. -/
theorem percentText_append_inj {percent other : Float} {rest behind : String}
    (h : percentText percent ++ (" " ++ rest) = percentText other ++ (" " ++ behind)) :
    percentText percent = percentText other ∧ rest = behind := by
  have hblank (percent : Float) : ' ' ∉ (percentText percent).toList := fun hmem =>
    absurd ((isBare_percentText percent).2 _ hmem) (by decide)
  have heq := congrArg String.toList h
  simp only [String.toList_append] at heq
  obtain ⟨hpercent, hrest⟩ := Text.append_cons_inj (hblank percent) (hblank other) heq
  exact ⟨String.toList_inj.mp hpercent, String.toList_inj.mp hrest⟩

/-- A number is no text in quotes. -/
theorem toString_ne_quoted (target : Nat) (text : String) : toString target ≠ quoted text := by
  intro h
  have hquote : '"' ∈ (toString target).toList := by
    rw [h, quoted, String.toList_append]
    exact List.mem_append_right _ (List.mem_singleton_self _)
  exact absurd (Text.isDigit_of_mem_toString hquote) (by decide)

/-! ## Readings from texts -/

/-- Commands that begin and go on the same are read the same. -/
theorem reading_eq_of_body_eq : ∀ {command other : TmuxCommand},
    (∀ name ∈ command.windowName?, '"' ∉ name.toList) →
    (∀ name ∈ other.windowName?, '"' ∉ name.toList) →
    command.opening = other.opening → command.body = other.body →
      command.reading = other.reading
  | newWindow (some _) _, newWindow (some _) _, hname, hother, _, hbody => by
    -- only the name stands before another text, so only it must lack quotes
    obtain ⟨rfl, hrest⟩ := quoted_append_inj (hname _ rfl) (hother _ rfl) hbody
    obtain rfl := quoted_inj.mp ((String.append_right_inj _).mp hrest)
    rfl
  | newWindow none _, newWindow none _, _, _, _, hbody => by
    obtain rfl := quoted_inj.mp hbody
    rfl
  | splitWindow _ _ _, splitWindow _ _ _, _, _, hopening, hbody => by
    cases hopening
    have hc : " -c " = " " ++ "-c " := rfl
    simp only [body, hc, String.append_assoc] at hbody
    obtain ⟨hpercent, hrest⟩ := percentText_append_inj hbody
    obtain rfl := quoted_inj.mp ((String.append_right_inj _).mp hrest)
    rw [reading, reading, hpercent]
  | selectPane _, selectPane _, _, _, _, hbody => by
    obtain rfl := Text.toString_inj.mp hbody
    rfl
  | selectPane _, focusTitle _, _, _, _, hbody => absurd hbody (toString_ne_quoted _ _)
  | focusTitle _, selectPane _, _, _, _, hbody => absurd hbody.symm (toString_ne_quoted _ _)
  | focusTitle _, focusTitle _, _, _, _, hbody => by
    obtain rfl := paneWithTitle_inj.mp (quoted_inj.mp hbody)
    rfl
  | setTitle _, setTitle _, _, _, _, hbody => by
    obtain rfl := quoted_inj.mp hbody
    rfl
  | sendKeys _, sendKeys _, _, _, _, hbody => by
    obtain rfl := quoted_inj.mp ((String.append_left_inj _).mp hbody)
    rfl

theorem text_eq_of_reading_eq : ∀ {command other : TmuxCommand},
    command.reading = other.reading → command.text = other.text
  | newWindow _ _, newWindow _ _, h => by
    cases h
    rfl
  | splitWindow direction percent directory, splitWindow _ other _, h => by
    obtain ⟨rfl, hpercent, rfl⟩ := Reading.splitWindow.inj h
    show "tmux split-window " ++ direction.flag ++ " -p " ++ percentText percent ++ " -c " ++
      quoted directory = _
    rw [hpercent]
    rfl
  | selectPane _, selectPane _, h => by
    cases h
    rfl
  | setTitle _, setTitle _, h => by
    cases h
    rfl
  | sendKeys _, sendKeys _, h => by
    cases h
    rfl
  | focusTitle _, focusTitle _, h => by
    cases h
    rfl

/-- **Commands are told by their texts.** Two commands have the same text exactly when they
are of the same kind, with the same texts from outside, pane, direction and printed
percentage, and when one gives the window a name, be it empty, so does the other. The texts
may hold anything, but for the name of a window: a quote in it would end it. -/
theorem text_eq_iff {command other : TmuxCommand}
    (hname : ∀ name ∈ command.windowName?, '"' ∉ name.toList)
    (hother : ∀ name ∈ other.windowName?, '"' ∉ name.toList) :
    command.text = other.text ↔ command.reading = other.reading := by
  refine ⟨fun h => ?_, text_eq_of_reading_eq⟩
  rw [text_eq_append, text_eq_append] at h
  obtain ⟨hopening, hbody⟩ := Opening.eq_of_append_eq h
  exact reading_eq_of_body_eq hname hother hopening hbody

/-- An empty name is not the same as none, and a part of a directory cannot pass for the end
of a name. -/
theorem text_eq_iff_of_names :
    (∀ name ∈ (newWindow (some "logs -c") "src").windowName?, '"' ∉ name.toList) ∧
      (newWindow (some "") "src").text ≠ (newWindow none "src").text ∧
      (newWindow (some "logs -c") "src").text ≠ (newWindow (some "logs") "-c src").text := by
  have hempty : ∀ name ∈ (newWindow (some "") "src").windowName?, '"' ∉ name.toList := by
    rintro _ ⟨⟩
    decide
  have hnone : ∀ name ∈ (newWindow none "src").windowName?, '"' ∉ name.toList := nofun
  have hlong : ∀ name ∈ (newWindow (some "logs -c") "src").windowName?, '"' ∉ name.toList := by
    rintro _ ⟨⟩
    decide
  have hshort : ∀ name ∈ (newWindow (some "logs") "-c src").windowName?, '"' ∉ name.toList := by
    rintro _ ⟨⟩
    decide
  refine ⟨hlong, ?_, ?_⟩
  · rw [Ne, text_eq_iff hempty hnone]
    decide
  · rw [Ne, text_eq_iff hlong hshort]
    decide

-- a quote in the name of a window passes for its end
example : (newWindow (some "logs\" -c \"src") "bin").text =
    (newWindow (some "logs") "src\" -c \"bin").text := by
  decide +kernel

end TmuxLayout.TmuxCommand
