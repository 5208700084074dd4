import TmuxLayout.Layout.Direction
import TmuxLayout.Split

/-!
# tmux commands (SPEC_FULL.md §4.2)

The commands that build a window, and their text. Texts stand in double quotes
as they are: a quote inside one of them ends it.

- `TmuxCommand`: the commands.
- `TmuxCommand.text`: a command as a line for the shell.
- `separator`: what tmux accepts between commands on one line.
- `currentPath`: what tmux replaces by the directory of the active pane.
-/

namespace TmuxLayout

/-- What tmux accepts between commands on one line. -/
def separator : String := " \\; "

/-- What tmux replaces by the directory of the active pane. -/
def currentPath : String := "#\x7bpane_current_path\x7d"

/-- A command of tmux. -/
inductive TmuxCommand where
  | newWindow (name : Option String) (directory : String)
  | splitWindow (direction : Direction) (percent : Float) (directory : String)
  | selectPane (target : Nat)
  | setTitle (title : String)
  | sendKeys (keys : String)
  /-- Selects the pane with a title. -/
  | focusTitle (title : String)

namespace TmuxCommand

/-- A text in double quotes. -/
def quoted (text : String) : String :=
  "\"" ++ text ++ "\""

theorem toList_quoted (text : String) :
    (quoted text).toList = '"' :: (text.toList ++ ['"']) := by
  rw [quoted, String.toList_append, String.toList_append]
  rfl

/-- The quotes may be taken for a part of what stands before the text and behind it. -/
theorem append_quoted (opening text : String) :
    opening ++ quoted text = opening ++ "\"" ++ text ++ "\"" := by
  rw [quoted, String.append_assoc, String.append_assoc, String.append_assoc]

/-- The line that makes tmux print the index of the pane with a title, and takes
the first that is not empty. -/
def paneWithTitle (title : String) : String :=
  "$(tmux list-panes -F '#\x7b?#\x7b==:#\x7bpane_title\x7d," ++ title ++
    "\x7d,#\x7bpane_index\x7d,\x7d' | grep -v '^$' | head -1)"

/-- A command as a line for the shell. -/
def text : TmuxCommand → String
  | newWindow name directory =>
    "tmux new-window" ++ (name.elim "" fun name => " -n " ++ quoted name) ++
      " -c " ++ quoted directory
  | splitWindow direction percent directory =>
    "tmux split-window " ++ direction.flag ++ " -p " ++ percentText percent ++
      " -c " ++ quoted directory
  | selectPane target => "tmux select-pane -t " ++ toString target
  | setTitle title => "tmux select-pane -T " ++ quoted title
  | sendKeys keys => "tmux send-keys " ++ quoted keys ++ " Enter"
  | focusTitle title => "tmux select-pane -t " ++ quoted (paneWithTitle title)

end TmuxCommand

end TmuxLayout
