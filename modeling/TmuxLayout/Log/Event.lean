import TmuxLayout.Json.Writer

/-!
# Events (SPEC_FULL.md §10.2)

What the program does is told as events. An event has a level, the part of the
program that it comes from, a name and fields.

- `Level`: how much an event matters; `Level.rank` orders the levels.
- `Event`: an event.
- `Event.line`: an event as one line of JSON.
-/

namespace TmuxLayout

/-- How much an event matters. -/
inductive Level where
  | error
  | warn
  | info
  | debug
  | trace
deriving Repr, DecidableEq

namespace Level

/-- The name of a level. -/
def name : Level → String
  | error => "ERROR"
  | warn => "WARN"
  | info => "INFO"
  | debug => "DEBUG"
  | trace => "TRACE"

/-- Levels in order; the less an event matters, the higher its rank. -/
def rank : Level → Nat
  | error => 1
  | warn => 2
  | info => 3
  | debug => 4
  | trace => 5

end Level

/-- The value of a field. -/
inductive FieldValue where
  | text (value : String)
  | number (value : Nat)
  | flag (value : Bool)
deriving Repr, DecidableEq

/-- The value as JSON. -/
def FieldValue.json : FieldValue → String
  | text value => Json.string value
  | number value => toString value
  | flag value => if value then "true" else "false"

/-- Something that the program did. -/
structure Event where
  level : Level
  /-- The part of the program that it comes from. -/
  target : String
  name : String
  details : List (String × FieldValue)
deriving Repr, DecidableEq

namespace Event

/-- All fields; the name is the first of them. -/
def fields (event : Event) : List (String × FieldValue) :=
  ("event", .text event.name) :: event.details

/-- The event as one line of JSON. -/
def line (event : Event) : String :=
  Json.line .object [Json.tightMember "level" (Json.string event.level.name),
    Json.tightMember "fields"
      (Json.line .object (event.fields.map fun (name, value) => Json.tightMember name value.json))]

end Event

end TmuxLayout
