import TmuxLayout.Shell.Tools.RegularExpression

/-!
# Texts of regular expressions

An expression is written in one of two ways: in the basic one, parentheses, braces
and bars are plain characters unless a backslash stands before them, in the extended
one it is the other way round.

- `RegularExpression.Style`: how an expression is written.
- `RegularExpression.Fault`: what may be wrong with its text.
- `RegularExpression.read`: reads an expression.
-/

namespace TmuxLayout.Shell.Tool.RegularExpression

/-- How an expression is written. -/
structure Style where
  isExtended : Bool
  /-- Whether counts may stand behind nothing, a brace may begin something else than
  counts, and a parenthesis may close no group. -/
  isLenient : Bool
deriving Repr, DecidableEq

/-- What is wrong with the text of an expression. -/
inductive Fault where
  | openGroup
  | noGroup
  | noBracket
  | openBracket
  | badRange
  | unknownClass
  | unknownElement
  | looseClass
  | openBrace
  | badBrace
  | idleCounts
  | lastBackslash
  | badReference
  | tooBig
deriving Repr, DecidableEq

/-- The fault in words. -/
def Fault.message : Fault → String
  | openGroup => "Unmatched ( or \\("
  | noGroup => "Unmatched ) or \\)"
  | noBracket => "Invalid regular expression"
  | openBracket => "Unmatched [, [^, [:, [., or [="
  | badRange => "Invalid range end"
  | unknownClass => "Invalid character class name"
  | unknownElement => "Invalid collation character"
  | looseClass => "character class syntax is [[:space:]], not [:space:]"
  | openBrace => "Unmatched \\\x7b"
  | badBrace => "Invalid content of \\\x7b\\\x7d"
  | idleCounts => "Invalid preceding regular expression"
  | lastBackslash => "Trailing backslash"
  | badReference => "Invalid back reference"
  | tooBig => "Regular expression too big"

/-! ## Marks -/

/-- What an expression is made of above characters. -/
inductive Mark where
  | opening
  | closing
  | brace
  | closingBrace
  | bar
  | star
  | plus
  | question
  | caret
  | dollar
  | plain (c : Char)
  | escaped (c : Char)
deriving Repr, DecidableEq

/-- The mark that a character is without a backslash in the extended way, and with
one in the basic way. -/
def switchedMark? : Char → Option Mark
  | '(' => some .opening
  | ')' => some .closing
  | '\x7b' => some .brace
  | '\x7d' => some .closingBrace
  | '|' => some .bar
  | '+' => some .plus
  | '?' => some .question
  | _ => none

/-- The mark at the begin of a text, and what is behind it. -/
def mark (style : Style) : List Char → Except Fault (Option (Mark × List Char))
  | [] => .ok none
  | ['\\'] => .error .lastBackslash
  | '\\' :: c :: rest =>
    match switchedMark? c with
    | some mark => .ok (some (if style.isExtended then .plain c else mark, rest))
    | none => .ok (some (.escaped c, rest))
  | c :: rest =>
    match switchedMark? c with
    | some mark => .ok (some (if style.isExtended then mark else .plain c, rest))
    | none =>
      .ok (some (match c with
        | '*' => .star
        | '^' => .caret
        | '$' => .dollar
        | c => .plain c, rest))

/-- What an escaped character fits, and whether it is a place and no text. -/
def escape (groups : Nat) (c : Char) : Except Fault (RegularExpression × Bool) :=
  let word : List (Char × Char) := [('a', 'z'), ('A', 'Z'), ('0', '9'), ('_', '_')]
  let space : List (Char × Char) := [('\t', '\x0d'), (' ', ' ')]
  match c with
  | 'w' => .ok (.single (.range false word), false)
  | 'W' => .ok (.single (.range true word), false)
  | 's' => .ok (.single (.range false space), false)
  | 'S' => .ok (.single (.range true space), false)
  | 'b' => .ok (.wordEdge true, true)
  | 'B' => .ok (.wordEdge false, true)
  | '<' => .ok (.wordStart, true)
  | '>' => .ok (.wordEnd, true)
  | '\x60' => .ok (.lineStart false, true)
  | '\x27' => .ok (.lineEnd false, true)
  | c =>
    if '1' ≤ c && c ≤ '9' then
      let number := c.toNat - '0'.toNat
      if number ≤ groups then .ok (.again number, false) else .error .badReference
    else .ok (.single (.char c), false)

/-! ## Counts -/

/-- The greatest count. -/
def maxCount : Nat := 32767

/-- What stands in braces up to a comma or their end, what ended it, and what is
behind that; the steps are bounded. -/
def countText (style : Style) : Nat → List Char →
    Except Fault (Option (List Char × Mark × List Char))
  | 0, _ => .ok none
  | steps + 1, text => do
    match ← mark style text with
    | none => return none
    | some (.closingBrace, rest) => return some ([], .closingBrace, rest)
    | some (.plain ',', rest) => return some ([], .plain ',', rest)
    | some (part, rest) =>
      match ← countText style steps rest with
      | some (inside, stop, behind) =>
        return some ((match part with | .plain c => c | _ => '\\') :: inside, stop, behind)
      | none => return none

/-- The counts in braces, if these hold no fault, and what is behind them. -/
def counts (style : Style) (text : List Char) :
    Except Fault ((Nat × Option Nat) × List Char) := do
  let number (inside : List Char) : Except Fault (Option Nat) :=
    if inside.isEmpty then .ok none
    else if inside.all Char.isDigit then
      .ok (some (inside.foldl (fun n c => n * 10 + (c.toNat - '0'.toNat)) 0))
    else .error .badBrace
  let checked (least : Nat) (most : Option Nat) (rest : List Char) :
      Except Fault ((Nat × Option Nat) × List Char) := do
    if most.any (· < least) then throw .badBrace
    if most.getD least > maxCount then throw .tooBig
    return ((least, most), rest)
  match ← countText style text.length text with
  | none => throw .openBrace
  | some (inside, .closingBrace, rest) =>
    match ← number inside with
    | some count => checked count (some count) rest
    | none => throw .badBrace
  | some (inside, _, rest) =>
    match ← countText style rest.length rest with
    | none => throw .openBrace
    | some (more, stop, rest) =>
      let least ← number inside
      let most ← number more
      if stop ≠ .closingBrace then throw .badBrace
      checked (least.getD 0) most rest

/-- Counts at the begin of a text, and what is behind them. -/
def countsAt? (style : Style) (text : List Char) :
    Except Fault (Option ((Nat × Option Nat) × List Char)) := do
  match ← mark style text with
  | some (.star, rest) => return some ((0, none), rest)
  | some (.plus, rest) => return some ((1, none), rest)
  | some (.question, rest) => return some ((0, some 1), rest)
  | some (.brace, rest) =>
    match counts style rest with
    | .ok found => return some found
    | .error fault =>
      let isText := fault = .openBrace || (fault = .badBrace && !hasCounts rest)
      if style.isExtended && style.isLenient && isText then return none
      throw fault
  | _ => return none
where
  /-- Whether there is nothing but digits and commas up to the end of the braces. -/
  hasCounts (rest : List Char) : Bool :=
    rest.takeWhile (· ≠ '\x7d') |>.all fun c => c.isDigit || c = ','

/-- An item with all counts that stand behind it; the steps are bounded. -/
def withCounts (style : Style) : Nat → RegularExpression → List Char →
    Except Fault (RegularExpression × List Char)
  | 0, item, text => .ok (item, text)
  | steps + 1, item, text => do
    match ← countsAt? style text with
    | some ((least, most), rest) => withCounts style steps (.repeated item least most) rest
    | none => return (item, text)

/-! ## Brackets -/

/-- A part of what stands in brackets. -/
inductive Element where
  | char (c : Char)
  /-- A character that stands for all that are sorted as it is. -/
  | equivalent (c : Char)
  | named (ranges : List (Char × Char))

/-- The text up to a mark and a closing bracket, and what is behind them. -/
def symbolText (mark : Char) : List Char → Option (List Char × List Char)
  | [] => none
  | c :: rest =>
    if c = mark && rest.head? = some ']' then some ([], rest.tail)
    else (symbolText mark rest).map fun (text, rest) => (c :: text, rest)

/-- The part at the begin of a text, and what is behind it. -/
def elementAt (text : List Char) : Except Fault (Element × List Char) :=
  match text with
  | [] => .error .openBracket
  | '[' :: mark :: rest =>
    if [':', '.', '='].contains mark then
      match symbolText mark rest with
      | none => .error .openBracket
      | some (name, rest) =>
        if mark = ':' then
          match namedClass? (String.ofList name) with
          | some ranges => .ok (.named ranges, rest)
          | none => .error .unknownClass
        else match name with
          | [c] => .ok (if mark = '.' then .char c else .equivalent c, rest)
          | _ => .error .unknownElement
    else .ok (.char '[', mark :: rest)
  | c :: rest => .ok (.char c, rest)

/-- The ranges up to a closing bracket, and what is behind it. A closing bracket
that comes first is one of the characters. The steps are bounded. -/
def ranges : Nat → (isFirst : Bool) → List Char →
    Except Fault (List (Char × Char) × List Char)
  | 0, _, _ => .error .openBracket
  | steps + 1, isFirst, text => do
    if text.head? = some ']' && !isFirst then return ([], text.tail)
    if text.head? = some '-' && !isFirst && text.tail.head? ≠ some ']' then
      throw (if text.tail.isEmpty then .openBracket else .badRange)
    let (element, rest) ← elementAt text
    let goOn (found : List (Char × Char)) (rest : List Char) :
        Except Fault (List (Char × Char) × List Char) := do
      let (others, rest) ← ranges steps false rest
      return (found ++ others, rest)
    match rest with
    | '-' :: behind =>
      if behind.isEmpty then throw .openBracket
      if behind.head? = some ']' then goOn (single element) rest
      else
        let (last, rest) ← elementAt behind
        match element, last with
        | .char low, .char high => if low ≤ high then goOn [(low, high)] rest else throw .badRange
        | _, _ => throw .badRange
    | rest => goOn (single element) rest
where
  /-- The ranges of one part. -/
  single (element : Element) : List (Char × Char) :=
    match element with
    | .char c | .equivalent c => [(c, c)]
    | .named ranges => ranges

/-- Whether brackets hold the name of a class without brackets of its own. -/
def isLooseClass (inside : List Char) : Bool :=
  inside.head? = some ':' && inside.getLast? = some ':' && inside.length > 1 &&
    inside.any (· ≠ ':') && !inside.contains '[' && !inside.contains '-'

/-- The item that an opening bracket begins, and what is behind it. -/
def bracketAt (text : List Char) : Except Fault (PatternItem × List Char) := do
  let (isOutside, inside) := match text with
    | '^' :: rest => (true, rest)
    | rest => (false, rest)
  if inside.isEmpty then throw .noBracket
  let (found, rest) ← ranges (inside.length + 1) true inside
  if isLooseClass (inside.take (inside.length - rest.length - 1)) then throw .looseClass
  return (.range isOutside found, rest)

/-! ## Expressions -/

/-- Whether an expression ends here, or a group of it. -/
def isAtEnd (style : Style) (text : List Char) : Bool :=
  match mark style text with
  | .ok none | .ok (some (.closing, _)) | .ok (some (.bar, _)) => true
  | _ => false

mutual

/-- Reads expressions with bars between them. -/
def readEither (style : Style) : (depth groups : Nat) → (inGroup : Bool) → List Char →
    Except Fault (RegularExpression × Nat × List Char)
  | 0, _, _, _ => .error .tooBig
  | depth + 1, groups, inGroup, text => do
    let (first, groups, rest) ← readRow style depth groups inGroup true .nothing text
    match ← mark style rest with
    | some (.bar, rest) =>
      let (second, groups, rest) ← readEither style depth groups inGroup rest
      return (.either first second, groups, rest)
    | _ => return (first, groups, rest)

/-- Reads items one after the other, given what stands before them. -/
def readRow (style : Style) : (depth groups : Nat) → (inGroup isFirst : Bool) →
    RegularExpression → List Char → Except Fault (RegularExpression × Nat × List Char)
  | 0, _, _, _, _, _ => .error .tooBig
  | depth + 1, groups, inGroup, isFirst, done, text => do
    let goOn (groups : Nat) (item : RegularExpression) (rest : List Char) :
        Except Fault (RegularExpression × Nat × List Char) := do
      let (item, rest) ← withCounts style rest.length item rest
      readRow style depth groups inGroup false (.both done item) rest
    let pass (place : RegularExpression) (rest : List Char) :
        Except Fault (RegularExpression × Nat × List Char) :=
      readRow style depth groups inGroup true (.both done place) rest
    let char (c : Char) (rest : List Char) : Except Fault (RegularExpression × Nat × List Char) :=
      goOn groups (.single (.char c)) rest
    let skip (shown : List Char) (rest : List Char) :
        Except Fault (RegularExpression × Nat × List Char) := do
      match ← mark style rest with
      | some (.closing, rest) =>
        readRow style depth groups inGroup false
          (.both done (.both (.idle shown) (.single (.char ')')))) rest
      | _ => pass (.idle shown) rest
    let count (c : Char) (rest : List Char) : Except Fault (RegularExpression × Nat × List Char) :=
      if !style.isExtended then char c rest
      else if style.isLenient then skip [c] rest
      else throw .idleCounts
    match ← mark style text with
    | none | some (.bar, _) => return (done, groups, text)
    | some (.closing, rest) =>
      if inGroup then return (done, groups, text)
      else if style.isExtended && style.isLenient then char ')' rest
      else throw .noGroup
    | some (.opening, rest) =>
      let number := groups + 1
      let (inner, groups, rest) ← readEither style depth number true rest
      match ← mark style rest with
      | some (.closing, rest) => goOn groups (.group number inner) rest
      | _ => throw .openGroup
    | some (.caret, rest) =>
      if style.isExtended || isFirst then pass (.lineStart false) rest else char '^' rest
    | some (.dollar, rest) =>
      if style.isExtended || isAtEnd style rest then pass (.lineEnd false) rest else char '$' rest
    | some (.star, rest) => count '*' rest
    | some (.plus, rest) => count '+' rest
    | some (.question, rest) => count '?' rest
    | some (.brace, rest) =>
      if !style.isLenient then throw .idleCounts
      else if !style.isExtended then char '\x7b' rest
      else match ← countsAt? style text with
        | some (_, rest) => skip ['\x7b', '.', '.', '.', '\x7d'] rest
        | none => char '\x7b' rest
    | some (.closingBrace, rest) => char '\x7d' rest
    | some (.escaped c, rest) =>
      let (item, isPlace) ← escape groups c
      if isPlace then pass item rest else goOn groups item rest
    | some (.plain '.', rest) => goOn groups (.single .anyChar) rest
    | some (.plain '[', rest) =>
      let (item, rest) ← bracketAt rest
      goOn groups (.single item) rest
    | some (.plain c, rest) => char c rest

end

/-- Reads an expression. -/
def read (style : Style) (text : List Char) : Except Fault RegularExpression := do
  let (expression, _, _) ← readEither style (3 * text.length + 3) 0 false text
  return expression

end TmuxLayout.Shell.Tool.RegularExpression
