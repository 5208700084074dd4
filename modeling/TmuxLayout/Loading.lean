import TmuxLayout.Files.Tree
import TmuxLayout.Json.Reader
import TmuxLayout.Layout.Reader
import TmuxLayout.Text.Space
import TmuxLayout.Yaml.Reader

/-!
# Loading layouts (SPEC_FULL.md §6, §11)

A layout is read from a YAML or JSON file; the extension of the path tells which.
The extension is looked at before the file is.

- `Format`, `Format.ofPath`: the format of a file.
- `LoadError`: why a layout cannot be loaded.
- `Document.read`, `Layout.read`: from text (`parse_layout_str`).
- `Layout.load`: from a file (`parse_layout_file`).
-/

namespace TmuxLayout

/-! ## Formats -/

/-- The format of a text. -/
inductive Format where
  | yaml
  | json
deriving Repr, DecidableEq

/-- The name of a format. -/
def Format.name : Format → String
  | yaml => "Yaml"
  | json => "Json"

/-- Why a layout cannot be loaded. -/
inductive LoadError where
  | notFound (path : String)
  | unreadable (path cause : String)
  | unsupportedExtension (extension : String)
  | invalidYaml (detail : String)
  | invalidJson (detail : String)
  | invalidLayout (fault : Layout.Fault)
deriving Repr, DecidableEq

namespace LoadError

/-- The fault in short. -/
def code : LoadError → String
  | notFound _ => "LAYOUT_FILE_NOT_FOUND"
  | unreadable _ _ => "LAYOUT_IO_ERROR"
  | unsupportedExtension _ => "UNSUPPORTED_EXTENSION"
  | invalidYaml _ => "YAML_PARSE_ERROR"
  | invalidJson _ => "JSON_PARSE_ERROR"
  | invalidLayout fault => fault.code

/-- The fault in words. -/
def message : LoadError → String
  | notFound path => "Layout file not found: " ++ path
  | unreadable path cause => "Failed to read layout file " ++ path ++ ": " ++ cause
  | unsupportedExtension extension => "Unsupported file extension: " ++ extension
  | invalidYaml detail => "Invalid YAML: " ++ detail
  | invalidJson detail => "Invalid JSON: " ++ detail
  | invalidLayout fault => fault.message

/-- Whether the user can mend the fault: all but trouble with reading. -/
def isUserError : LoadError → Bool
  | unreadable _ _ => false
  | _ => true

end LoadError

/-- The format of a file by the extension of its path. -/
def Format.ofPath (path : String) : Except LoadError Format :=
  match FilePath.extension path with
  | "yaml" | "yml" => .ok .yaml
  | "json" => .ok .json
  | extension => .error (.unsupportedExtension extension)

/-! ## Texts -/

/-- The document that a text denotes. A YAML text of white space alone denotes
null. -/
def Document.read (text : String) (format : Format) : Except LoadError Document :=
  match format with
  | .yaml =>
    if text.toList.all Text.isSpace then .ok .null
    else (Document.ofYaml text).mapError (.invalidYaml ·.message)
  | .json => (Document.ofJson text).mapError (.invalidJson ·.message)

/-- The layout that a text denotes. -/
def Layout.read (text : String) (format : Format) : Except LoadError Layout := do
  let document ← Document.read text format
  (Layout.ofDocument document).mapError .invalidLayout

/-! ## Files -/

/-- The text of a file. -/
def readText? (files : Files) (path : String) : Except LoadError String :=
  match files.read path with
  | .error .notFound => .error (.notFound path)
  | .error (.failed cause) => .error (.unreadable path cause)
  | .ok octets =>
    match octets.decode? with
    | some text => .ok text
    | none => .error (.unreadable path "the file is not UTF-8")

/-- The layout in a file. -/
def Layout.load (files : Files) (path : String) : Except LoadError Layout := do
  let format ← Format.ofPath path
  let text ← readText? files path
  Layout.read text format

end TmuxLayout
