/-!
# Patterns

In a pattern an asterisk fits every text, a question mark every character, and
a row of characters in brackets each of these; a quoted character fits itself.

- `Glyph`: a character, and whether it was quoted.
- `PatternItem`, `patternItems`: a pattern in its items.
- `matchesItems`: whether a whole text fits.
- `dropFront`, `dropBack`: what is left of a text without a part that fits.
-/

namespace TmuxLayout.Shell

/-- A character of a word. -/
structure Glyph where
  char : Char
  quoted : Bool
deriving Repr, DecidableEq

/-- An item of a pattern. -/
inductive PatternItem where
  | anyText
  | anyChar
  | char (c : Char)
  /-- The characters within some ranges, or those outside of them. -/
  | range (outside : Bool) (ranges : List (Char × Char))
deriving Repr, DecidableEq

namespace PatternItem

/-- Whether an item for one character fits it. -/
def fits (item : PatternItem) (c : Char) : Bool :=
  match item with
  | anyText => false
  | anyChar => true
  | char other => c = other
  | range outside ranges => (ranges.any fun (low, high) => low ≤ c && c ≤ high) != outside

end PatternItem

/-- The classes of characters with a name. -/
def namedClass? : String → Option (List (Char × Char))
  | "alpha" => some [('a', 'z'), ('A', 'Z')]
  | "digit" => some [('0', '9')]
  | "alnum" => some [('a', 'z'), ('A', 'Z'), ('0', '9')]
  | "upper" => some [('A', 'Z')]
  | "lower" => some [('a', 'z')]
  | "space" => some [('\t', '\x0d'), (' ', ' ')]
  | "blank" => some [('\t', '\t'), (' ', ' ')]
  | "punct" => some [('!', '/'), (':', '@'), ('[', '\x60'), ('\x7b', '~')]
  | "xdigit" => some [('0', '9'), ('a', 'f'), ('A', 'F')]
  | "print" => some [(' ', '~')]
  | "graph" => some [('!', '~')]
  | "cntrl" => some [('\x00', '\x1f'), ('\x7f', '\x7f')]
  | _ => none

/-- A class with a name at the begin of a text, between `[:` and `:]`, and what
is behind it. -/
def classAt? (text : List Glyph) : Option (List (Char × Char) × List Glyph) :=
  match text with
  | ⟨'[', false⟩ :: ⟨':', false⟩ :: rest =>
    let name := (rest.map Glyph.char).takeWhile Char.isAlpha
    match (rest.drop name.length).take 2 with
    | [⟨':', false⟩, ⟨']', false⟩] =>
      (namedClass? (String.ofList name)).map (·, rest.drop (name.length + 2))
    | _ => none
  | _ => none

/-- The ranges up to a closing bracket, and what is behind it. A closing bracket
that comes first is one of the characters. The number of steps is bounded. -/
def rangesAt? (isFirst : Bool) : Nat → List Glyph → Option (List (Char × Char) × List Glyph)
  | 0, _ => none
  | _ + 1, [] => none
  | count + 1, glyph :: rest =>
    if glyph = ⟨']', false⟩ && !isFirst then some ([], rest)
    else match classAt? (glyph :: rest) with
      | some (ranges, rest) =>
        (rangesAt? false count rest).map fun (others, rest) => (ranges ++ others, rest)
      | none =>
        match rest with
        | ⟨'-', false⟩ :: high :: behind =>
          if high = ⟨']', false⟩ then
            (rangesAt? false count rest).map fun (others, rest) =>
              ((glyph.char, glyph.char) :: others, rest)
          else
            (rangesAt? false count behind).map fun (others, rest) =>
              ((glyph.char, high.char) :: others, rest)
        | rest =>
          (rangesAt? false count rest).map fun (others, rest) =>
            ((glyph.char, glyph.char) :: others, rest)

/-- The item that an opening bracket begins, and what is behind it. -/
def bracketAt? (rest : List Glyph) : Option (PatternItem × List Glyph) :=
  match rest with
  | ⟨'!', false⟩ :: inside | ⟨'^', false⟩ :: inside =>
    (rangesAt? true (inside.length + 1) inside).map fun (ranges, rest) => (.range true ranges, rest)
  | inside =>
    (rangesAt? true (inside.length + 1) inside).map fun (ranges, rest) => (.range false ranges, rest)

/-- A pattern in its items, of which there are at most `count`. -/
def patternItems : (count : Nat) → List Glyph → List PatternItem
  | 0, _ => []
  | _ + 1, [] => []
  | count + 1, glyph :: rest =>
    if glyph.quoted then .char glyph.char :: patternItems count rest
    else match glyph.char with
      | '*' => .anyText :: patternItems count rest
      | '?' => .anyChar :: patternItems count rest
      | '[' =>
        match bracketAt? rest with
        | some (item, rest) => item :: patternItems count rest
        | none => .char '[' :: patternItems count rest
      | c => .char c :: patternItems count rest

/-- What is left of a text without its first characters, for all numbers of
them. -/
def endings : List Char → List (List Char)
  | [] => [[]]
  | c :: text => (c :: text) :: endings text

/-- Whether a whole text fits items. -/
def matchesItems : List PatternItem → List Char → Bool
  | [], text => text.isEmpty
  | .anyText :: items, text => (endings text).any (matchesItems items)
  | _ :: _, [] => false
  | item :: items, c :: text => item.fits c && matchesItems items text

/-- Whether a whole text fits a pattern. -/
def matchesPattern (pattern : List Glyph) (text : List Char) : Bool :=
  matchesItems (patternItems pattern.length pattern) text

/-- The text without the shortest or longest part at its begin that fits. -/
def dropFront (longest : Bool) (pattern : List Glyph) (text : List Char) : List Char :=
  let counts := List.range (text.length + 1)
  let counts := if longest then counts.reverse else counts
  match counts.find? fun count => matchesPattern pattern (text.take count) with
  | some count => text.drop count
  | none => text

/-- The text without the shortest or longest part at its end that fits. -/
def dropBack (longest : Bool) (pattern : List Glyph) (text : List Char) : List Char :=
  let counts := List.range (text.length + 1)
  let counts := if longest then counts else counts.reverse
  match counts.find? fun count => matchesPattern pattern (text.drop count) with
  | some count => text.take count
  | none => text

end TmuxLayout.Shell
