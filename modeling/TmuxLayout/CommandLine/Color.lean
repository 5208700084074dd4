import TmuxLayout.DefaultLayout
import TmuxLayout.Number.Decimal
import TmuxLayout.Text.Search

/-!
# Colors (SPEC_FULL.md §14)

Texts for people are colored if the environment asks for it. The outputs are
never taken for terminals, so without such a wish there are no colors.

- `Color.isWanted`: what the environment asks for.
- `Shade`: the colors in use.
- `Painter`: puts texts in color, or leaves them.
-/

namespace TmuxLayout

namespace Color

/-- Whether a variable is set to something other than zero. -/
def isSet (environment : Environment) (name : String) : Bool :=
  match environment name with
  | some value => value ≠ "0"
  | none => false

/-- The number in `$FORCE_COLOR`; a text that is no number counts as one. -/
def forcedLevel (text : String) : Nat :=
  match text with
  | "" | "true" => 1
  | "false" => 0
  | text =>
    let digits := match text.toList with
      | '+' :: rest => rest
      | chars => chars
    if digits.isEmpty || !digits.all Char.isDigit then 1
    else
      let n := digitsValue digits
      if n < UInt64.size then n else 1

/-- Whether colors are forced. -/
def isForced (environment : Environment) : Bool :=
  match environment "FORCE_COLOR" with
  | some text => forcedLevel text > 0
  | none => isSet environment "CLICOLOR_FORCE"

/-- The variables by which services for continuous integration are known. -/
def integrationVariables : List String :=
  ["CI_NAME", "GITHUB_ACTION", "GITLAB_CI", "NETLIFY", "TRAVIS", "CODEBUILD_SRC_DIR",
    "BUILDER_OUTPUT", "GITLAB_DEPLOYMENT", "NOW_GITHUB_DEPLOYMENT", "NOW_BUILDER",
    "BITBUCKET_DEPLOYMENT", "GERRIT_PROJECT", "SYSTEM_TEAMFOUNDATIONCOLLECTIONURI", "BITRISE_IO",
    "BUDDY_WORKSPACE_ID", "BUILDKITE", "CIRRUS_CI", "APPVEYOR", "CIRCLECI", "SEMAPHORE", "DRONE",
    "DSARI", "TDDIUM", "STRIDER", "TASKCLUSTER_ROOT_URL", "JENKINS_URL", "bamboo.buildKey",
    "GO_PIPELINE_NAME", "HUDSON_URL", "WERCKER", "MAGNUM", "NEVERCODE", "RENDER", "SAIL_CI",
    "SHIPPABLE"]

/-- The end of the path of the interpreter that one such service has. -/
def integrationInterpreter : String := "//heroku/node/bin/node"

/-- Whether the program seems to be run by a service for continuous
integration. -/
def isIntegrated (environment : Environment) : Bool :=
  (environment "CI").any (fun value => value = "true" || value = "1" || value = "woodpecker") ||
    integrationVariables.any (fun name => (environment name).isSome) ||
    (environment "NODE").any fun path =>
      (Text.after? integrationInterpreter.toList.reverse path.toList.reverse).isSome

/-- The kind of terminal that knows no colors. -/
def plainTerminal : String := "dumb"

/-- Whether something in the environment speaks for colors. -/
def isOffered (environment : Environment) : Bool :=
  (environment "COLORTERM").isSome ||
    (environment "TERM").any (· ≠ plainTerminal) ||
    (environment "TERM_PROGRAM").any (fun name => name = "iTerm.app" || name = "Apple_Terminal") ||
    isSet environment "CLICOLOR" || isIntegrated environment

/-- Whether the environment asks for colors: they are forced, or else they are
not refused, an output that is no terminal is as good as one, and something
speaks for them. -/
def isWanted (environment : Environment) : Bool :=
  isForced environment ||
    (!isSet environment "NO_COLOR" && environment "TERM" ≠ some plainTerminal &&
      isSet environment "IGNORE_IS_TERMINAL" && isOffered environment)

end Color

/-- The colors in use. -/
inductive Shade where
  | ice
  | aurora
  | ember
  | muted
deriving Repr, DecidableEq

/-- The amounts of red, green and blue. -/
def Shade.amounts : Shade → List Nat
  | ice => [124, 180, 200]
  | aurora => [107, 143, 94]
  | ember => [184, 112, 96]
  | muted => [92, 99, 112]

/-- Puts texts in color, or leaves them. -/
structure Painter where
  isOn : Bool
deriving Repr, DecidableEq

namespace Painter

/-- A text in a color. -/
def color (painter : Painter) (shade : Shade) (text : String) : String :=
  if painter.isOn then
    "\x1b[38;2;" ++ ";".intercalate (shade.amounts.map toString) ++ "m" ++ text ++ "\x1b[39m"
  else text

/-- A text in bold type. -/
def bold (painter : Painter) (text : String) : String :=
  if painter.isOn then "\x1b[1m" ++ text ++ "\x1b[0m" else text

/-- A text in bold type with a line under it. -/
def heading (painter : Painter) (text : String) : String :=
  if painter.isOn then "\x1b[1m\x1b[4m" ++ text ++ "\x1b[0m" else text

end Painter

end TmuxLayout
