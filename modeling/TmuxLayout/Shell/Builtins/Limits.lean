import TmuxLayout.Shell.Builtins.Basic

/-!
# Limits and times

- `Builtin.limits`: shows or sets how much of something programs may use.
- `Builtin.times`: shows how long programs have run.
-/

namespace TmuxLayout.Shell.Builtin

variable {σ : Type}

/-- What there are limits of, with the letters and the limits at the begin. -/
def limitTable : List (String × Char × String) :=
  [("time(seconds)", 't', "unlimited"), ("file(blocks)", 'f', "unlimited"),
    ("data(kbytes)", 'd', "unlimited"), ("stack(kbytes)", 's', "8192"), ("coredump(blocks)", 'c', "0"),
    ("memory(kbytes)", 'm', "unlimited"), ("locked memory(kbytes)", 'l', "64"),
    ("process", 'p', "unlimited"), ("nofiles", 'n', "1048576"), ("vmemory(kbytes)", 'v', "unlimited"),
    ("locks", 'w', "unlimited"), ("rtprio", 'r', "0")]

/-- A limit as it was set, or as it was at the begin. -/
def limitText (session : Session σ) (letter : Char) (first : String) : List Char :=
  (session.limits.lookup letter).getD (ofText first)

/-- A name with room behind it. -/
def limitName (name : String) : List Char :=
  ofText name ++ List.replicate (20 - name.length) ' ' ++ [' ']

/-- Shows or sets limits. -/
def limits : Builtin σ := fun arguments => do
  let (options, arguments) ← options "HSatfdscmlpnvwr" "" arguments
  let letters := options.map (·.1)
  let session ← get
  let all := letters.contains 'a'
  let letter := ((letters.filter fun c => !(['H', 'S', 'a'].contains c)).getLast?).getD 'f'
  match arguments with
  | [] =>
    let chosen := if all then limitTable else limitTable.filter fun (_, other, _) => other = letter
    put (chosen.flatMap fun (name, letter, first) =>
      (if all then limitName name else []) ++ limitText session letter first ++ ['\n'])
  | value :: others =>
    if all || !others.isEmpty then Run.fail (ofText "too many arguments")
    if value ≠ ofText "unlimited" && !value.all Char.isDigit then Run.fail (ofText "bad number")
    let value := if value.isEmpty then ['0'] else value
    set { session with limits := Run.withEntry letter value session.limits }
    return 0

/-- Shows how long the shell and its programs have run, which is no time at all. -/
def times : Builtin σ := fun _ =>
  put (ofText "0m0.000000s 0m0.000000s\n0m0.000000s 0m0.000000s\n")

end TmuxLayout.Shell.Builtin
