import TmuxLayout.CommandLine.Color

/-!
# Help (SPEC_FULL.md §14)

The help has a short form, where each option is on one line with what it does,
and a long one, where that stands on a line of its own.

- `Entry`: an option as the help shows it.
- `Help.text`: the help in one of its forms.
- `Help.versionText`: the name and version of the program.
-/

namespace TmuxLayout.Help

/-- The name of the program. -/
def program : String := "ccde"

/-- The version of the program. -/
def version : String := "0.1.0"

/-- The name and version of the program. -/
def versionText : String := program ++ " " ++ version ++ "\n"

/-- The two forms of the help. -/
inductive Form where
  | short
  | long
deriving Repr, DecidableEq

/-- What the program does. -/
def Form.purpose : Form → String
  | short => "Compile declarative tmux layouts into tmux commands"
  | long =>
    "ccde reads a YAML or JSON layout describing one tmux window (nested horizontal and " ++
      "vertical splits, size ratios, pane titles, startup commands and a focus target) and " ++
      "prints the tmux commands that build it, or runs them with --execute."

/-- What the option for help does. -/
def Form.otherForm : Form → String
  | short => "Print help (see more with '--help')"
  | long => "Print help (see a summary with '-h')"

/-- An option as the help shows it, or the layout file, which has no name. -/
structure Entry where
  letter : Option Char
  name : Option String
  /-- What stands for the value. -/
  value : Option String
  about : String
deriving Repr, DecidableEq

/-- The layout file. -/
def layoutFile : Entry :=
  ⟨none, none, some "[layout-file]", "Layout file (.yaml, .yml or .json)"⟩

/-- The options in order. -/
def options (form : Form) : List Entry :=
  [⟨some 'v', some "verbose", none, "Enable verbose logging output"⟩,
    ⟨none, some "no-color", none, "Disable colored output"⟩,
    ⟨some 'f', some "file", some "<file>", "Layout file, same as the positional argument"⟩,
    ⟨none, some "default", none, "Use the default layout (~/.config/ccde/default.yml)"⟩,
    ⟨some 'e', some "execute", none, "Run the generated tmux commands instead of printing them"⟩,
    ⟨none, some "batch", none, "With --execute, run everything as one tmux invocation"⟩,
    ⟨none, some "json", none, "Print the generated commands as JSON"⟩,
    ⟨some 'c', some "cwd", some "<DIR>",
      "Working directory for the new window and every split (default: current pane's directory)"⟩,
    ⟨some 'n', some "window-name", some "<NAME>", "Name for the new tmux window"⟩,
    ⟨some 'h', some "help", none, form.otherForm⟩,
    ⟨some 'V', some "version", none, "Print version"⟩]

namespace Entry

/-- How an option is written, in a column of its own. -/
def label (entry : Entry) (painter : Painter) : String :=
  let letter := entry.letter.map fun c => painter.bold (String.ofList ['-', c])
  let name := entry.name.map fun name => painter.bold ("--" ++ name)
  match name with
  | some name =>
    letter.elim "    " (· ++ ", ") ++ name ++ entry.value.elim "" (" " ++ ·)
  | none => entry.value.getD ""

/-- How wide the label is. -/
def width (entry : Entry) : Nat :=
  (entry.label ⟨false⟩).length

end Entry

/-- Spaces. -/
def spaces (count : Nat) : String :=
  String.ofList (List.replicate count ' ')

/-- Entries, one line each, what they do in a column of its own. -/
def shortLines (painter : Painter) (entries : List Entry) : List String :=
  let widest := entries.foldl (fun widest entry => max widest entry.width) 0
  entries.map fun entry =>
    spaces 2 ++ entry.label painter ++ spaces (widest - entry.width + 2) ++ entry.about ++ "\n"

/-- Entries with what they do on a line of its own, and room between them. -/
def longLines (painter : Painter) (entries : List Entry) : List String :=
  ("\n".intercalate (entries.map fun entry =>
    spaces 2 ++ entry.label painter ++ "\n" ++ spaces 10 ++ entry.about ++ "\n")) :: []

/-- Entries below a heading. -/
def group (form : Form) (painter : Painter) (title : String) (entries : List Entry) : String :=
  let lines := match form with
    | .short => shortLines painter entries
    | .long => longLines painter entries
  painter.heading title ++ "\n" ++ String.join lines

/-- The help in one of its forms. -/
def text (form : Form) (painter : Painter) : String :=
  "\n".intercalate
    [form.purpose ++ "\n",
      painter.heading "Usage:" ++ " " ++ painter.bold program ++ " [OPTIONS] [layout-file]\n",
      group form painter "Arguments:" [layoutFile],
      group form painter "Options:" (options form)]

/-- Whether help is painted: refused by `$NO_COLOR`, forced by
`$CLICOLOR_FORCE`, each unless it is empty. -/
def isPainted (environment : Environment) : Bool :=
  !(environment "NO_COLOR").any (!·.isEmpty) && (environment "CLICOLOR_FORCE").any (!·.isEmpty)

end TmuxLayout.Help
