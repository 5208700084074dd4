import TmuxLayout.Shell.Evaluation.Basic

/-!
# Redirections

- `openOutput`, `openInput`: open a file.
- `redirectAll`: carries out redirections.
-/

namespace TmuxLayout.Shell

variable {σ : Type}

/-- The channel that a device stands for, if a path is that of one. -/
def deviceAt? (session : Session σ) (path : List Char) : Option (Option Channel) :=
  let place := Lookup.fullPath session path
  match place with
  | "/dev/null" | "/dev/zero" | "/dev/full" | "/dev/random" | "/dev/urandom" => some (some .nowhere)
  | "/dev/stdin" => some (session.descriptors.lookup 0)
  | "/dev/stdout" => some (session.descriptors.lookup 1)
  | "/dev/stderr" => some (session.descriptors.lookup 2)
  | place =>
    ((place.after? "/dev/fd/").bind fun number => decimal? number.toList).map fun number =>
      session.descriptors.lookup number

/-- Opens a file for writing, from its begin or from its end. Files that are there
may have to stay as they are. -/
def openOutput (fromEnd keeps : Bool) (target : List Char) : Run σ Channel := do
  let session ← get
  let path := Run.shown target
  let fail (reason : String) : Run σ Channel :=
    Run.fail (ofText "cannot create " ++ target ++ ofText ": " ++ ofText reason)
  match deviceAt? session target with
  | some (some channel) => return channel
  | some none => fail "No such file or directory"
  | none =>
    let components := FileTree.absolute session.directory path
    let create : Run σ Channel := do
      set { session with tree := session.tree.write session.directory path [] }
      return .file ("/" ++ "/".intercalate components)
    match Lookup.fullPath session target, session.tree.find session.directory path,
        session.tree.follow [] components.dropLast with
    | "/dev/tty", _, _ => fail "No such device or address"
    | _, .ok (.directory _), _ =>
      if keeps then Run.fail (ofText "cannot open " ++ target ++ ofText ": Is a directory")
      else fail "Is a directory"
    | _, .ok (.file _), _ =>
      if keeps then fail "File exists"
      else if fromEnd then return .file ("/" ++ "/".intercalate components)
      else create
    | _, .error _, .ok (.directory _) =>
      if target.isEmpty then fail "Directory nonexistent"
      else if FilePath.endsInDirectory path then fail "Is a directory"
      else create
    | _, .error _, _ => fail "Directory nonexistent"

/-- Opens a file for reading. -/
def openInput (target : List Char) : Run σ Channel := do
  let session ← get
  let fail (reason : String) : Run σ Channel :=
    Run.fail (ofText "cannot open " ++ target ++ ofText ": " ++ ofText reason)
  match deviceAt? session target with
  | some (some channel) => return channel
  | some none => fail "No such file"
  | none =>
    if Lookup.fullPath session target = "/dev/tty" then return ← fail "No such device or address"
    match session.tree.find session.directory (Run.shown target) with
    | .ok (.file octets) => Run.newBuffer (Run.textOfOctets octets)
    | .ok (.directory _) => return .nowhere
    | .error _ => fail "No such file"

/-- Makes a descriptor lead where another one leads to, or nowhere at all. -/
def duplicate (descriptor : Nat) (target : List Char) : Run σ Unit := do
  match decimal? target with
  | some other =>
    match ← Run.channel? other with
    | some channel => Run.connect descriptor channel
    | none => Run.fail (target ++ ofText ": Bad file descriptor")
  | none =>
    modify fun session =>
      { session with descriptors := session.descriptors.filter (·.1 ≠ descriptor) }

/-- Carries out a redirection to a target. -/
def redirect (descriptor : Nat) (target : List Char) : RedirectKind → Run σ Unit
  | .here => do Run.connect descriptor (← Run.newBuffer target)
  | .input => do Run.connect descriptor (← openInput target)
  | .output => do
    let keeps := (← get).flags.contains 'C'
    Run.connect descriptor (← openOutput false keeps target)
  | .overwrite => do Run.connect descriptor (← openOutput false false target)
  | .append | .inputOutput => do Run.connect descriptor (← openOutput true false target)
  | .duplicate => duplicate descriptor target

/-- Puts the target of a redirection together, and gives what is left to do then. A
text that follows a line is put together at the last moment. What cannot be a
descriptor is a fault of the text up to where it was read. -/
def prepareRedirection (perform : Perform σ) : Redirection → Run σ (Run σ Unit)
  | .mk descriptor .here target =>
    return do redirect descriptor (← (expander perform).text target) .here
  | .mk descriptor .duplicate target => do
    let text ← (expander perform).word target
    if text ≠ ['-'] && (text.length ≠ 1 || !text.all Char.isDigit) then
      modify fun session => { session with line := session.nextLine }
      Run.fail (ofText "Syntax error: Bad fd number")
    return redirect descriptor text .duplicate
  | .mk descriptor kind target => do
    return redirect descriptor (← (expander perform).word target) kind

/-- Carries out redirections, and tells whether that was possible. A fault in the
text of a target is not among the possible outcomes: it ends the shell. -/
def redirectAll (perform : Perform σ) (redirections : List Redirection) : Run σ Bool := do
  let prepared ← redirections.mapM (prepareRedirection perform)
  try
    prepared.forM id
    return true
  catch
    | .fault status => do
      Run.setStatus status
      return false
    | stop => throw stop

end TmuxLayout.Shell
