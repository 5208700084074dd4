import TmuxLayout.Number.Binary64

/-!
# Documents (SPEC_FULL.md §11)

A document is the value that a YAML or JSON text denotes. Mappings keep the
order of their entries, and a tag is a node of its own around the value it
marks.

- `Document`: the values.
- `Document.untagged`: the value inside all tags; the views `asMapping?`,
  `asSequence?`, `asString?` and `asNumber?` look through tags, whereas a match
  on a constructor does not.
- `Document.get?`: the entry of a mapping at a text key.
- `Document.isTruthy`: what counts as given at all (`is_truthy`).
- `Document.kind`: the word for a value's kind in messages (`kind_of`).
- `Document.sameAs`: equality of mapping keys.
-/

namespace TmuxLayout

/-- The value of a YAML or JSON text. -/
inductive Document where
  | null
  | bool (value : Bool)
  | int (value : Int)
  | float (value : Float)
  | string (text : String)
  | sequence (items : List Document)
  | mapping (entries : List (Document × Document))
  | tagged (tag : String) (value : Document)
deriving Inhabited

namespace Document

/-! ## Views through tags -/

/-- The value inside all tags. -/
def untagged : Document → Document
  | tagged _ value => value.untagged
  | value => value

/-- The entries of a mapping, seen through tags. -/
def asMapping? (document : Document) : Option (List (Document × Document)) :=
  match document.untagged with
  | mapping entries => some entries
  | _ => none

/-- The items of a sequence, seen through tags. -/
def asSequence? (document : Document) : Option (List Document) :=
  match document.untagged with
  | sequence items => some items
  | _ => none

/-- The text of a string, seen through tags. -/
def asString? (document : Document) : Option String :=
  match document.untagged with
  | string text => some text
  | _ => none

/-- The number, seen through tags; an integer counts as the nearest double. -/
def asNumber? (document : Document) : Option Float :=
  match document.untagged with
  | int value => some (Binary64.ofInt value)
  | float value => some value
  | _ => none

/-! ## Entries -/

/-- The value at a text key, among entries. -/
def lookup? (key : String) : List (Document × Document) → Option Document
  | [] => none
  | (string text, value) :: entries => if text = key then some value else lookup? key entries
  | _ :: entries => lookup? key entries

/-- The value at a text key of a mapping, seen through tags. -/
def get? (document : Document) (key : String) : Option Document :=
  document.asMapping?.bind (lookup? key)

/-! ## Kinds -/

/-- Whether a value counts as given: all but null, false, zero, not-a-number and
the empty string. A tag makes any value count. -/
def isTruthy : Document → Bool
  | null => false
  | bool value => value
  | int value => value ≠ 0
  | float value => value != 0 && !value.isNaN
  | string text => !text.isEmpty
  | sequence _ | mapping _ | tagged _ _ => true

/-- The word for a value's kind. -/
def kind : Document → String
  | null => "null"
  | bool _ => "a boolean"
  | int _ | float _ => "a number"
  | string _ => "a string"
  | sequence _ => "an array"
  | mapping _ => "a mapping"
  | tagged _ _ => "a tagged value"

/-! ## Equality of keys -/

mutual

/-- The number of values in a document, itself included. -/
def size : Document → Nat
  | sequence items => itemsSize items + 1
  | mapping entries => entriesSize entries + 1
  | tagged _ value => value.size + 1
  | null | bool _ | int _ | float _ | string _ => 1

/-- The number of values in a list of documents. -/
def itemsSize : List Document → Nat
  | [] => 0
  | item :: items => item.size + itemsSize items

/-- The number of values in a list of entries. -/
def entriesSize : List (Document × Document) → Nat
  | [] => 0
  | (key, value) :: entries => key.size + value.size + entriesSize entries

end

/-- Equality of two numbers as keys: not-a-number equals itself. -/
def sameFloat (a b : Float) : Bool :=
  a == b || (a.isNaN && b.isNaN)

/-- The bare name of a tag: without its mark, unless it is nothing else. -/
def bareTag (tag : String) : List Char :=
  match tag.toList with
  | '!' :: c :: rest => c :: rest
  | name => name

mutual

/-- Equality of two values as mapping keys. An integer differs from every
double, and mappings are compared without regard to order. -/
def sameAs : Document → Document → Bool
  | null, null => true
  | bool a, bool b => a = b
  | int a, int b => a = b
  | float a, float b => sameFloat a b
  | string a, string b => a = b
  | sequence as, sequence bs => sameItems as bs
  | mapping as, mapping bs => as.length = bs.length && containedIn as bs
  | tagged s a, tagged t b => bareTag s = bareTag t && sameAs a b
  | _, _ => false

/-- Equality of two rows of values. -/
def sameItems : List Document → List Document → Bool
  | [], [] => true
  | a :: as, b :: bs => sameAs a b && sameItems as bs
  | _, _ => false

/-- Whether each entry of one mapping is an entry of the other. -/
def containedIn : List (Document × Document) → List (Document × Document) → Bool
  | [], _ => true
  | (key, value) :: entries, others =>
    (others.any fun (k, v) => sameAs key k && sameAs value v) && containedIn entries others

end

/-- Whether one of the entries has the key. -/
def hasKey (entries : List (Document × Document)) (key : Document) : Bool :=
  entries.any fun (k, _) => sameAs k key

end Document

end TmuxLayout
