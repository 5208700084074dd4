import TmuxLayout.DefaultLayout
import TmuxLayout.Log.Event
import TmuxLayout.Log.Pattern
import TmuxLayout.Text.Alphanumeric
import TmuxLayout.Text.Measure
import TmuxLayout.Text.Order
import TmuxLayout.Text.Search
import TmuxLayout.Text.Space

/-!
# Which events are told (SPEC_FULL.md §10.2)

A filter is a list of directives behind commas. A directive is a level for all
events, or the begin of a target, or a field in `[{...}]`, or both; behind an
equals sign it may have a level. Of the directives that fit an event the most
special one decides, and the later one of equal ones.

- `Threshold`: the highest rank that passes.
- `Directive`, `Directive.read?`: one directive.
- `Filter`, `Filter.read?`: all of them.
- `Filter.passes`: whether an event is told.
- `Filter.ofEnvironment`: the filter in `$RUST_LOG`.
-/

namespace TmuxLayout

/-- The highest rank that passes; nothing passes zero. -/
abbrev Threshold := Nat

namespace Threshold

/-- The name of each threshold from the lowest on. -/
def names : List String :=
  ["off", "error", "warn", "info", "debug", "trace"]

/-- The threshold with a name or number. Upper and lower case are the same, and a
number may begin with a plus and with zeros. -/
def ofName? (text : List Char) : Option Threshold :=
  let digits := match text with
    | '+' :: digits => digits
    | digits => digits
  if !digits.isEmpty && digits.all Char.isDigit then
    if digitsValue digits < names.length then some (digitsValue digits) else none
  else names.idxOf? (String.ofList (text.map FilePath.lower))

end Threshold

/-- What passes for the targets that begin with a word, if the event has a certain
field. -/
structure Directive where
  target : List Char
  field : Option (List Char)
  threshold : Threshold
deriving Repr, DecidableEq

namespace Directive

/-- A directive for the targets that begin with a word. -/
def forTarget (target : List Char) (threshold : Threshold) : Directive :=
  ⟨target, none, threshold⟩

/-! ## Reading

Marks are looked for in the text without the white space around it, but the parts
are cut out of the whole text, at the places that are counted from its begin in
octets. So white space before a directive moves its parts.
-/

/-- What a part of a directive is made of. -/
structure Part where
  /-- Where it begins and ends, in octets. -/
  start : Nat
  stop : Nat
deriving Repr, DecidableEq

/-- The text of a part. -/
def Part.of (part : Part) (text : List Char) : List Char :=
  Text.dropOctets part.start (Text.takeOctets part.stop text)

/-- The threshold behind an equals sign, or none. Without a name everything
passes. -/
def threshold? (text : List Char) (start : Nat) : (rest : List Char) → Option Threshold
  | [] => some Level.trace.rank
  | '=' :: _ =>
    match Text.dropOctets (start + 1) text with
    | [] => some Level.trace.rank
    | name => Threshold.ofName? name
  | _ => none

/-- The name of the field that a part asks for, and whether it asks for a value
as well. -/
def field? (text : List Char) : Option (List Char × Bool) :=
  let name := text.takeWhile (· ≠ '=')
  match text.drop name.length with
  | [] => if text.isEmpty then none else some (name, false)
  | _ :: behind =>
    if isFieldPattern (behind.takeWhile (· ≠ '=')) then some (name, true) else none

/-- Reads what stands in brackets at the end of a target, behind the first of
them. A directive about spans or about the value of a field fits no event and
counts for nothing. -/
def readBrackets? (text target : List Char) (start : Nat) (rest : List Char) :
    Option (List Directive) :=
  let name := rest.takeWhile fun c => c ≠ ']' && c ≠ '\x7b'
  let stop := start + Text.octetCount name
  let afterName := stop + 1
  match rest.drop name.length with
  | ']' :: rest => (threshold? text afterName rest).map fun _ => []
  | _ :: rest =>
    let inside := rest.takeWhile (· ≠ '\x7d')
    let close := afterName + Text.octetCount inside
    match rest.drop inside.length with
    | _ :: ']' :: rest => do
      let (field, hasValue) ← field? (Part.of ⟨afterName, close⟩ text)
      let threshold ← threshold? text (close + 2) rest
      let namesSpan := !(Part.of ⟨start, stop⟩ text).isEmpty
      return if namesSpan || hasValue then [] else [⟨target, some field, threshold⟩]
    | _ => none
  | [] => none

/-- Whether a directive may begin with a character. -/
def isStart (c : Char) : Bool :=
  c = '-' || c = ':' || c = '_' || c = '[' || Text.isAlphanumeric c

/-- Reads a directive that is not empty. -/
def read? (text : List Char) : Option (List Directive) :=
  let marked := Text.trim text
  if !marked.head?.any isStart then none
  else
    let target := marked.takeWhile fun c => c ≠ '=' && c ≠ '['
    let stop := Text.octetCount target
    match marked.drop target.length with
    | [] =>
      match Threshold.ofName? text with
      | some threshold => some [forTarget [] threshold]
      | none => some [forTarget text Level.trace.rank]
    | '[' :: rest => readBrackets? text (Text.takeOctets stop text) (stop + 1) rest
    | rest =>
      (threshold? text stop rest).map fun threshold => [forTarget (Text.takeOctets stop text) threshold]

/-! ## Deciding -/

/-- Whether a directive is about an event. -/
def fits (directive : Directive) (event : Event) : Bool :=
  (Text.after? directive.target event.target.toList).isSome &&
    directive.field.all fun name => event.fields.any fun (other, _) => name = other.toList

/-- Whether the first of two directives that fit an event decides on it when it
is the earlier one: its target is longer, or else it alone names a field, or else
the name of its field comes later. -/
def winsOver (first second : Directive) : Bool :=
  second.target.length < first.target.length ||
    (first.target.length = second.target.length &&
      match first.field, second.field with
      | some _, none => true
      | some name, some other => !Text.isAtMost name other
      | none, _ => false)

end Directive

/-- Which events are told. -/
structure Filter where
  directives : List Directive
deriving Repr, DecidableEq

namespace Filter

/-- All events up to a rank. -/
def upTo (threshold : Threshold) : Filter :=
  ⟨[.forTarget [] threshold]⟩

/-- No events. -/
def silent : Filter := upTo 0

/-- Reads directives between commas; empty ones count for nothing. -/
def read? (text : String) : Option Filter := do
  let parts := (FilePath.splitAt ',' text.toList).filter (!·.isEmpty)
  return ⟨(← parts.mapM Directive.read?).flatten⟩

/-- The directive that decides on an event. -/
def deciding? (event : Event) : List Directive → Option Directive
  | [] => none
  | directive :: directives =>
    match deciding? event directives, directive.fits event with
    | none, true => some directive
    | some later, true => if directive.winsOver later then some directive else some later
    | later?, false => later?

/-- Whether an event is told. -/
def passes (filter : Filter) (event : Event) : Bool :=
  match deciding? event filter.directives with
  | some directive => event.level.rank ≤ directive.threshold
  | none => false

/-- The filter in `$RUST_LOG`. If there is none or it cannot be read, all events
up to information are told. -/
def ofEnvironment (environment : Environment) : Filter :=
  ((environment "RUST_LOG").bind read?).getD (upTo Level.info.rank)

end Filter

end TmuxLayout
