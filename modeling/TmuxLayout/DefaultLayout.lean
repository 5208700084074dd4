import TmuxLayout.Loading

/-!
# The default layout (SPEC_FULL.md §10.4)

The default layout is a file in the configuration directory. That directory lies
in `$XDG_CONFIG_HOME` if this is set and not empty, and in `~/.config` otherwise.

- `ConfigError`: why the default layout cannot be loaded.
- `ConfigPaths`: the configuration directory, and the file in it.
- `ConfigPaths.resolve`: from the environment.
- `Layout.loadDefault`: the default layout, if there is one (`load_default_layout`).
-/

namespace TmuxLayout

/-- The value of a variable of the environment. -/
abbrev Environment := String → Option String

/-- Why the default layout cannot be loaded. -/
inductive ConfigError where
  | homeNotFound
  | load (error : LoadError)
deriving Repr, DecidableEq

namespace ConfigError

/-- The fault in short. -/
def code : ConfigError → String
  | homeNotFound => "HOME_NOT_FOUND"
  | load error => error.code

/-- The fault in words. -/
def message : ConfigError → String
  | homeNotFound => "home directory not found — set $HOME or $XDG_CONFIG_HOME"
  | load error => "Failed to load default layout: " ++ error.message

/-- Whether the user can mend the fault. -/
def isUserError : ConfigError → Bool
  | homeNotFound => false
  | load error => error.isUserError

end ConfigError

/-- The configuration directory. -/
structure ConfigPaths where
  directory : String
deriving Repr, DecidableEq

namespace ConfigPaths

/-- The name of the configuration directory. -/
def directoryName : String := "ccde"

/-- The name of the file with the default layout. -/
def fileName : String := "default.yml"

/-- A variable that is set and not empty. -/
def nonEmpty? (environment : Environment) (name : String) : Option String :=
  (environment name).filter (!·.isEmpty)

/-- The configuration directory for an environment. -/
def resolve (environment : Environment) : Except ConfigError ConfigPaths :=
  match nonEmpty? environment "XDG_CONFIG_HOME" with
  | some base => .ok ⟨FilePath.join base directoryName⟩
  | none =>
    match nonEmpty? environment "HOME" with
    | some home => .ok ⟨FilePath.join (FilePath.join home ".config") directoryName⟩
    | none => .error .homeNotFound

/-- The path of the default layout. -/
def defaultLayout (paths : ConfigPaths) : String :=
  FilePath.join paths.directory fileName

end ConfigPaths

/-- The default layout in a configuration directory, if there is a file for it. -/
def Layout.loadDefault (files : Files) (paths : ConfigPaths) :
    Except ConfigError (Option Layout) :=
  if files.isPresent paths.defaultLayout then
    ((Layout.load files paths.defaultLayout).map some).mapError .load
  else .ok none

end TmuxLayout
