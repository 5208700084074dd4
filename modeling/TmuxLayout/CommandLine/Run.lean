import TmuxLayout.CommandLine.Color
import TmuxLayout.CommandLine.Help
import TmuxLayout.CommandLine.Options
import TmuxLayout.Log.Filter
import TmuxLayout.Log.Record

/-!
# What the program answers (SPEC_FULL.md §7, §14)

The answer to a command line follows from the files, the environment, and what a
runner makes of the lines that it is given. Lines are run only when that is asked
for and the layout was loaded and compiled.

- `Source`: where a layout comes from.
- `Report`: the exit code, the two outputs, the events and the lines that were run.
- `Options.report`: the report on options.
- `reportOn`: the report on a command line.
-/

namespace TmuxLayout

/-- Where a layout comes from. -/
inductive Source where
  | file (path : String)
  | default
deriving Repr, DecidableEq

/-- The command line that runs the layout. -/
def Source.executeHint : Source → String
  | file path => "ccde -e " ++ path
  | default => "ccde --default -e"

/-- What the program answers. -/
structure Report (σ : Type) where
  exitCode : Nat
  output : String
  errorOutput : String
  events : List Event
  /-- The lines that were run. -/
  ran : List String
  /-- The state that the runner is left in. -/
  state : σ

/-! ## Faults -/

/-- Why there is no layout to work on. -/
inductive SourceError where
  | noFile
  | file (path : String) (error : LoadError)
  | default (error : ConfigError)
  | noDefault (path : String)
deriving Repr, DecidableEq

namespace SourceError

/-- The fault in words, and a hint. -/
def message : SourceError → String × Option String
  | noFile => ("Layout file is required", some "Use --help for usage information")
  | file _ error => (error.message, none)
  | default error => (error.message, none)
  | noDefault path =>
    ("No default layout found at " ++ path, some "Create it or pass a layout file explicitly.")

/-- A text for people about the fault. -/
def text (painter : Painter) (error : SourceError) : String :=
  let (message, hint) := error.message
  painter.color .ember ("❌ " ++ message) ++ "\n" ++
    hint.elim "" fun hint => painter.color .muted ("   " ++ hint) ++ "\n"

/-- An event of the command line. -/
def commandEvent (level : Level) (name : String) (details : List (String × FieldValue)) : Event :=
  ⟨level, "ccde::commands", name, details⟩

/-- The events of the fault. -/
def events : SourceError → List Event
  | noFile => [commandEvent .error "cli.layout_file_missing" []]
  | file path error =>
    [commandEvent .error "cli.layout_load_failed"
        [("file", .text path), ("error", .text error.message)],
      faultEvent error.message (faultDetails error.code error.isUserError)]
  | default .homeNotFound => [faultEvent ConfigError.homeNotFound.message []]
  | default error =>
    [commandEvent .error "cli.default_layout_failed" [("error", .text error.message)],
      faultEvent error.message (faultDetails error.code error.isUserError)]
  | noDefault path => [commandEvent .error "cli.default_layout_missing" [("path", .text path)]]

end SourceError

/-! ## Loading -/

/-- The file that options are about: the one that they name, or that of the
default layout. -/
def Options.path? (options : Options) (environment : Environment) : Option String :=
  (options.layoutFile.or options.file).or
    (if options.default then
      (ConfigPaths.resolve environment).toOption.map ConfigPaths.defaultLayout
    else none)

/-- The layout that options ask for, and where it comes from. -/
def Options.source (options : Options) (files : Files) (environment : Environment) :
    Except SourceError (Layout × Source) :=
  match options.layoutFile.or options.file with
  | some path => ((Layout.load files path).map (·, Source.file path)).mapError (.file path)
  | none =>
    if options.default then
      match ConfigPaths.resolve environment with
      | .error error => .error (.default error)
      | .ok paths =>
        match Layout.loadDefault files paths with
        | .ok (some layout) => .ok (layout, .default)
        | .ok none => .error (.noDefault paths.defaultLayout)
        | .error error => .error (.default error)
    else .error .noFile

/-- The events of loading. -/
def Options.sourceRecord (options : Options) (files : Files) (environment : Environment) :
    List Event :=
  match options.layoutFile.or options.file with
  | some path =>
    SourceError.commandEvent .info "cli.layout_load_started" [("file", .text path)] ::
      loadRecord files path
  | none =>
    if options.default then
      match ConfigPaths.resolve environment with
      | .ok paths => defaultRecord files paths
      | .error _ => []
    else []

/-! ## Printing -/

/-- Commands as JSON, with the name of the layout. -/
def stepsAsJson (layout : Layout) (steps : List Step) : String :=
  let command (step : Step) : String :=
    Json.block .object 2 [Json.member "text" (Json.string step.text),
      Json.member "description" (Json.string step.description)]
  Json.block .object 0 [Json.member "name" (Json.optionalString layout.name),
    Json.member "command" (Json.string (joinLines (steps.map Step.text))),
    Json.member "commands" (Json.block .list 1 (steps.map command))]

/-- Commands as one line, with a hint how to run them. -/
def stepsAsText (painter : Painter) (source : Source) (steps : List Step) : String :=
  "\n".intercalate [painter.bold "Generated tmux command:", joinLines (steps.map Step.text), "",
    painter.color .muted "To execute this layout, run:", source.executeHint]

/-! ## The whole -/

/-- The shell that runs lines. -/
def defaultShell : String := "sh"

/-- The report of a program that runs nothing. -/
def Report.idle {σ : Type} (exitCode : Nat) (output errorOutput : String) (events : List Event)
    (state : σ) : Report σ :=
  ⟨exitCode, output, errorOutput, events, [], state⟩

/-- The program has begun. -/
def startEvent : Event :=
  ⟨.info, "ccde_core::events", "core.app.startup_completed", [("version", .text Help.version)]⟩

/-- The report on running commands. -/
def Options.executeReport {σ : Type} (options : Options) (painter : Painter) (runner : Runner σ)
    (state : σ) (layout : Layout) (steps : List Step) : Report σ :=
  let name := layout.name.getD "Unnamed"
  let lines := steps.map Step.text
  let execution :=
    if options.batch then runner.executeBatch state lines else runner.execute state lines
  let record :=
    if options.batch then batchRecord defaultShell steps execution
    else executeRecord defaultShell steps execution
  let begun := "Executing layout: " ++ painter.color .ice name ++ "\n"
  let events :=
    SourceError.commandEvent .info "cli.execute_started" [("layout", .text name),
      ("commands", .number steps.length), ("batch", .flag options.batch)] :: record
  match execution.result with
  | .ok () =>
    ⟨0, begun ++ painter.color .aurora "✅ Layout created" ++ "\n", "",
      events ++ [SourceError.commandEvent .info "cli.execute_completed" [("layout", .text name)]],
      execution.ran, execution.state⟩
  | .error error =>
    ⟨1, begun,
      painter.color .ember "❌ Failed to execute tmux commands" ++ "\n" ++
        painter.color .muted ("   " ++ error.message) ++ "\n",
      events ++ [SourceError.commandEvent .error "cli.execute_failed"
          [("layout", .text name), ("error", .text error.message)],
        faultEvent error.message (faultDetails error.code false)],
      execution.ran, execution.state⟩

/-- The report on options, with all events. -/
def Options.fullReport {σ : Type} (options : Options) (files : Files) (environment : Environment)
    (runner : Runner σ) (state : σ) : Report σ :=
  let painter : Painter := ⟨!options.noColor && Color.isWanted environment⟩
  let before := startEvent :: options.sourceRecord files environment
  match options.source files environment with
  | .error error => .idle 1 "" (error.text painter) (before ++ error.events) state
  | .ok (layout, source) =>
    let before := before ++ compileRecord layout options.directory options.window
    match layout.compile options.directory options.window with
    | .error fault =>
      .idle 1 "" (painter.color .ember ("❌ Failed to compile layout: " ++ fault.message) ++ "\n")
        (before ++ [SourceError.commandEvent .error "cli.compile_failed"
            [("error", .text fault.message)],
          faultEvent fault.message (faultDetails fault.code true)]) state
    | .ok steps =>
      if options.execute then
        let report := options.executeReport painter runner state layout steps
        { report with events := before ++ report.events }
      else
        let output :=
          if options.json then stepsAsJson layout steps else stepsAsText painter source steps
        .idle 0 (output ++ "\n") "" (before ++ [SourceError.commandEvent .info "cli.run_completed"
          [("commands", .number steps.length)]]) state

/-- The report on options. Events are told only if that is asked for. -/
def Options.report {σ : Type} (options : Options) (files : Files) (environment : Environment)
    (runner : Runner σ) (state : σ) : Report σ :=
  let filter := if options.verbose then Filter.ofEnvironment environment else Filter.silent
  let report := options.fullReport files environment runner state
  { report with events := report.events.filter filter.passes }

/-- The exit code for a command line that makes no sense. -/
def misuseCode : Nat := 2

/-- The report on a command line. -/
def reportOn {σ : Type} (words : List String) (files : Files) (environment : Environment)
    (runner : Runner σ) (state : σ) : Report σ :=
  let painter : Painter := ⟨Help.isPainted environment⟩
  match Request.ofWords words with
  | .answer .shortHelp => .idle 0 (Help.text .short painter) "" [] state
  | .answer .longHelp => .idle 0 (Help.text .long painter) "" [] state
  | .answer .version => .idle 0 Help.versionText "" [] state
  | .misuse misuse =>
    .idle misuseCode "" ("error: " ++ misuse.message ++ "\n\nFor more information, try '--help'.\n")
      [] state
  | .run options => options.report files environment runner state

end TmuxLayout
