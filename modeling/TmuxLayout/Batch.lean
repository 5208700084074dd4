import TmuxLayout.Text.Digit
import TmuxLayout.Text.Search
import TmuxLayout.Tmux

/-!
# Several commands in one call of tmux (SPEC_FULL.md §13)

Within one call `send-keys` needs its pane named. It gets the pane of the closest
`select-pane -t` before it that names a number, or else the first pane.

- `selectedPane?`: the pane that a command selects.
- `Batch.pieces`: the commands without `tmux`, keys aimed at their pane.
- `batchLine`: all commands as one call (`to_batch_command`).
-/

namespace TmuxLayout

/-- The word that begins a line for the shell. -/
def tmuxWord : List Char := "tmux ".toList

/-- The command that types keys. -/
def sendKeysWord : List Char := "send-keys".toList

/-- The command that selects a pane by its number, before the number. -/
def selectPaneWord : List Char := "select-pane -t ".toList

/-- The pane when none was selected. -/
def defaultPane : List Char := ['1']

/-- The digits behind the leftmost `select-pane -t` that has digits behind it. -/
def selectedNumber? : List Char → Option (List Char)
  | [] => none
  | c :: rest =>
    match Text.after? selectPaneWord (c :: rest) with
    | some behind =>
      let digits := behind.takeWhile Text.isDecimalDigit
      if digits.isEmpty then selectedNumber? rest else some digits
    | none => selectedNumber? rest

/-- The pane that a command selects. Commands with `-T` set titles and select
nothing. -/
def selectedPane? (body : List Char) : Option (List Char) :=
  if Text.occurs ['-', 'T'] body then none else selectedNumber? body

/-- A line without its leading `tmux`. -/
def withoutTmux (line : List Char) : List Char :=
  (Text.after? tmuxWord line).getD line

namespace Batch

/-- The commands without `tmux`, keys aimed at their pane. -/
def pieces (target : Option (List Char)) : List (List Char) → List (List Char)
  | [] => []
  | line :: lines =>
    let body := withoutTmux line
    match Text.after? sendKeysWord body with
    | some keys =>
      (sendKeysWord ++ " -t ".toList ++ target.getD defaultPane ++ keys) :: pieces target lines
    | none => body :: pieces ((selectedPane? body).or target) lines

end Batch

/-- All commands as one call of tmux; nothing for no commands. -/
def batchLine (lines : List String) : String :=
  if lines.isEmpty then ""
  else "tmux " ++ separator.intercalate
    ((Batch.pieces none (lines.map String.toList)).map String.ofList)

end TmuxLayout
