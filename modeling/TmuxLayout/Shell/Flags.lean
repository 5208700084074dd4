import TmuxLayout.Shell.Script

/-!
# Options of a shell

Every option has a name, and most have a letter too. An option that is set is
kept as its letter.

- `Flag.table`: the names and letters.
- `Flag.ofName?`: the letter of the option with a name.
- `Flag.shown`: the letters that `$-` tells.
-/

namespace TmuxLayout.Shell.Flag

/-- The names of options and their letters. Those of the last two are not to be
written. -/
def table : List (String × Char) :=
  [("errexit", 'e'), ("noglob", 'f'), ("ignoreeof", 'I'), ("interactive", 'i'), ("monitor", 'm'),
    ("noexec", 'n'), ("stdin", 's'), ("xtrace", 'x'), ("verbose", 'v'), ("vi", 'V'), ("emacs", 'E'),
    ("noclobber", 'C'), ("allexport", 'a'), ("notify", 'b'), ("nounset", 'u'), ("privileged", 'p'),
    ("nolog", '\x01'), ("debug", '\x02')]

/-- The letter of the option with a name. -/
def ofName? (name : List Char) : Option Char :=
  table.lookup (String.ofList name)

/-- The letters of options. -/
def letters : List Char :=
  (table.map (·.2)).filter Char.isAlpha

/-- Whether a letter is that of an option. -/
def isLetter (c : Char) : Bool :=
  letters.contains c

/-- The letters of the options that are set, the last ones first. -/
def shown (flags : List Char) : List Char :=
  (letters.filter flags.contains).reverse

/-- The options with one set or not. Of the two ways to edit lines one is set at
most. -/
def put (isSet : Bool) (letter : Char) (flags : List Char) : List Char :=
  let others := flags.filter (· ≠ letter)
  if !isSet then others
  else if letter = 'V' then letter :: others.filter (· ≠ 'E')
  else if letter = 'E' then letter :: others.filter (· ≠ 'V')
  else letter :: others

/-- A word with room behind it. -/
def padded (name : String) : List Char :=
  name.toList ++ List.replicate (16 - name.length) ' '

/-- All options and whether they are set, to be read. -/
def settings (flags : List Char) : List Char :=
  "Current option settings\n".toList ++
    table.flatMap fun (name, letter) =>
      padded name ++ (if flags.contains letter then "on\n" else "off\n").toList

/-- All options as commands that set them. -/
def commands (flags : List Char) : List Char :=
  table.flatMap fun (name, letter) =>
    (if flags.contains letter then "set -o " else "set +o ").toList ++ name.toList ++ ['\n']

end TmuxLayout.Shell.Flag
