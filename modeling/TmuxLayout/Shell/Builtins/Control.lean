import TmuxLayout.Shell.Builtins.Basic

/-!
# The flow of a script

- `Builtin.exit`, `Builtin.leaveFunction`: end a shell, and a function.
- `Builtin.leaveLoop`, `Builtin.nextTurn`: leave loops, or go on in them.
-/

namespace TmuxLayout.Shell.Builtin

variable {σ : Type}

/-- Ends the shell, with the status of the last command if none is given. What is
done on a signal ends it with the status from before. -/
def exit : Builtin σ := fun arguments => do
  match arguments with
  | text :: _ => throw (.exit (← count text))
  | [] =>
    let session ← get
    throw (.exit (session.heldStatus.getD session.status))

/-- Ends a function. -/
def leaveFunction : Builtin σ := fun arguments => do
  match arguments with
  | text :: _ => throw (.leaveFunction (← count text))
  | [] => throw (.leaveFunction (← get).status)

/-- How many loops are meant, all of them at most. -/
def loopCount (arguments : List (List Char)) : Run σ Nat := do
  let number ← match arguments with
    | text :: _ => do
      let number ← count text
      if number = 0 then Run.fail (ofText "Illegal number: " ++ text)
      pure number
    | [] => pure 1
  return min number (← get).loops

/-- Leaves loops. -/
def leaveLoop : Builtin σ := fun arguments => do
  let number ← loopCount arguments
  if number = 0 then return 0 else throw (.leaveLoops number)

/-- Goes on with the next turn of a loop. -/
def nextTurn : Builtin σ := fun arguments => do
  let number ← loopCount arguments
  if number = 0 then return 0 else throw (.nextTurn number)

end TmuxLayout.Shell.Builtin
