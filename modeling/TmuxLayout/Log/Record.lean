import TmuxLayout.Compile
import TmuxLayout.DefaultLayout
import TmuxLayout.Execution
import TmuxLayout.Log.Event
import TmuxLayout.Text.Literal

/-!
# What is told about each part of the work (SPEC_FULL.md §10.2)

The events of a part of the work follow from what went into it and what came
out of it, so the work itself knows nothing of them.

- `loadRecord`: loading a layout from a file.
- `defaultRecord`: loading the default layout.
- `compileRecord`: turning a layout into commands.
- `executeRecord`, `batchRecord`: running commands.
- `faultEvent`: a fault that ends the program.
-/

namespace TmuxLayout

/-- A text that may be absent, as a field. -/
def FieldValue.optional (text : Option String) : FieldValue :=
  .text (optionalLiteral (text.map literal))

/-! ## Loading -/

/-- Where the events of loading come from. -/
def loadingTarget : String := "ccde_core::loading"

/-- A layout was read. -/
def parsedEvent (layout : Layout) : Event :=
  ⟨.debug, "ccde_core::layout::raw", "core.layout.parse_completed",
    [("name", .optional layout.name), ("panes", .number layout.paneCount)]⟩

/-- Loading begins. -/
def loadStarted (path : String) : Event :=
  ⟨.info, loadingTarget, "core.loading.parse_started", [("path", .text path)]⟩

/-- A file was read, if it could be. -/
def fileRead (files : Files) (path : String) : List Event :=
  match Format.ofPath path, readText? files path with
  | .ok format, .ok text =>
    [⟨.debug, loadingTarget, "core.loading.file_read", [("path", .text path),
      ("format", .text format.name), ("bytes", .number text.utf8ByteSize)]⟩]
  | _, _ => []

/-- How loading ends. -/
def loadEnded (path : String) : Except LoadError Layout → List Event
  | .ok layout =>
    [parsedEvent layout,
      ⟨.info, loadingTarget, "core.loading.parse_completed", [("path", .text path),
        ("name", .optional layout.name), ("panes", .number layout.paneCount)]⟩]
  | .error error =>
    [⟨.error, loadingTarget, "core.loading.parse_failed", [("path", .text path),
      ("error", .text error.message), ("error_code", .text error.code)]⟩]

/-- The events of loading a layout from a file. -/
def loadRecord (files : Files) (path : String) : List Event :=
  loadStarted path :: fileRead files path ++ loadEnded path (Layout.load files path)

/-- The events of loading the default layout. -/
def defaultRecord (files : Files) (paths : ConfigPaths) : List Event :=
  let path := paths.defaultLayout
  if files.isPresent path then
    loadRecord files path ++
      match Layout.load files path with
      | .ok layout =>
        [⟨.info, "ccde_core::config", "core.config.default_layout_loaded",
          [("path", .text path), ("panes", .number layout.paneCount)]⟩]
      | .error _ => []
  else
    [⟨.debug, "ccde_core::config", "core.config.default_layout_missing", [("path", .text path)]⟩]

/-! ## Compiling -/

/-- Where the events of compiling come from. -/
def compileTarget : String := "ccde_core::layout::compiler"

/-- The event of a step that splits a pane. -/
def splitEvent? (step : Step) : Option Event :=
  match step.command, step.purpose with
  | .splitWindow _ percent _, .split direction number =>
    some ⟨.debug, compileTarget, "core.layout.split_computed",
      [("direction", .text direction.name), ("split", .number number),
        ("percent", .text (percentText percent))]⟩
  | _, _ => none

/-- The events of turning a layout into commands. -/
def compileRecord (layout : Layout) (directory window : Option String) : List Event :=
  ⟨.info, compileTarget, "core.layout.compile_started", [("name", .optional layout.name),
      ("panes", .number layout.paneCount), ("working_directory", .optional directory),
      ("window_name", .optional window)]⟩ ::
    match layout.compileFrom directory window with
    | .ok (steps, next) =>
      steps.filterMap splitEvent? ++
        [⟨.info, compileTarget, "core.layout.compile_completed",
          [("commands", .number steps.length), ("panes", .number (next - 1))]⟩]
    | .error _ => []

/-! ## Running -/

/-- Where the events of running come from. -/
def executeTarget : String := "ccde_core::exec::handler"

/-- Where the events of the shell come from. -/
def shellTarget : String := "ccde_core::exec::shell"

/-- The exit code after a line. -/
def exitCodeOf : Except RunError Unit → Option (Option Int)
  | .ok () => some (some 0)
  | .error (.commandFailed _ code _) => some code
  | .error (.spawnFailed _ _) => none

/-- An exit code that may be absent, as a field. -/
def FieldValue.exitCode (code : Option Int) : FieldValue :=
  .text (optionalLiteral (code.map toString))

/-- The events of a line that was run by a shell. -/
def lineRecord (shell line : String) (result : Except RunError Unit) : List Event :=
  ⟨.debug, shellTarget, "core.exec.shell_started",
      [("shell", .text shell), ("command", .text line)]⟩ ::
    ((exitCodeOf result).map fun code => (⟨.debug, shellTarget, "core.exec.shell_completed",
      [("command", .text line), ("code", .exitCode code)]⟩ : Event)).toList ++
    match result with
    | .error (.commandFailed line code stderr) =>
      [⟨.error, executeTarget, "core.exec.command_failed", [("command", .text line),
        ("code", .exitCode code), ("stderr", .text stderr.trimSpace)]⟩]
    | _ => []

/-- What became of each line that was run: all but the last succeeded. -/
def outcomes (result : Except RunError Unit) : List String → List (String × Except RunError Unit)
  | [] => []
  | [line] => [(line, result)]
  | line :: lines => (line, .ok ()) :: outcomes result lines

/-- The events of running commands one by one. -/
def executeRecord {σ : Type} (shell : String) (steps : List Step) (execution : Execution σ) :
    List Event :=
  let each := ((outcomes execution.result execution.ran).zip steps).zipIdx.flatMap
    fun (((line, result), step), position) =>
      ⟨.info, executeTarget, "core.exec.command_started",
        [("position", .number position), ("description", .text step.description)]⟩ ::
        lineRecord shell line result
  ⟨.info, executeTarget, "core.exec.execute_started", [("commands", .number steps.length)]⟩ ::
    each ++
    match execution.result with
    | .ok () =>
      [⟨.info, executeTarget, "core.exec.execute_completed",
        [("commands", .number steps.length)]⟩]
    | .error _ => []

/-- The events of running commands as one call. -/
def batchRecord {σ : Type} (shell : String) (steps : List Step) (execution : Execution σ) :
    List Event :=
  if steps.isEmpty then []
  else
    ⟨.info, executeTarget, "core.exec.batch_started", [("commands", .number steps.length)]⟩ ::
      (outcomes execution.result execution.ran).flatMap
        (fun (line, result) => lineRecord shell line result) ++
      match execution.result with
      | .ok () => [⟨.info, executeTarget, "core.exec.batch_completed", []⟩]
      | .error _ => []

/-! ## Faults -/

/-- A fault that ends the program, with what is known of it. -/
def faultEvent (message : String) (details : List (String × FieldValue)) : Event :=
  ⟨.error, "ccde_core::events", "core.app.error_occurred", ("error", .text message) :: details⟩

/-- The short form of a fault and whether the user can mend it, as fields. -/
def faultDetails (code : String) (isUserError : Bool) : List (String × FieldValue) :=
  [("error_code", .text code), ("user_error", .flag isUserError)]

end TmuxLayout
