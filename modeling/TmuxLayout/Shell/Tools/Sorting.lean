import TmuxLayout.Shell.Tools.Lines
import TmuxLayout.Text.Order

/-!
# Programs about lines as entries

- `Tool.sort`: puts lines in order, by keys within them if asked to.
- `Tool.uniq`: passes one of equal neighbours on.
-/

namespace TmuxLayout.Shell.Tool

/-! ## Keys -/

/-- How texts are compared. -/
structure Comparison where
  isNumeric : Bool
  ignoresCase : Bool
  ignoresBlanks : Bool
  isReversed : Bool
deriving Repr, DecidableEq

/-- The comparison that letters name. -/
def Comparison.ofLetters (has : Char → Bool) : Comparison :=
  ⟨has 'n' || has 'g', has 'f', has 'b', has 'r'⟩

/-- A part of lines that they are sorted by: from a character of a field, both
counted from zero, to the end of the line or a number of characters of a field. -/
structure SortKey where
  field : Nat
  offset : Nat
  /-- The last field, and how many characters of it; zero stands for all. -/
  last : Option (Nat × Nat)
  comparison : Option Comparison
deriving Repr, DecidableEq

/-- What is wrong with the text of a key. -/
inductive KeyFault where
  | noCount (isField : Bool) (text : List Char)
  | zeroField (text : List Char)
  | zeroOffset (text : List Char)
  | badLetter (text : List Char)
deriving Repr, DecidableEq

/-- The fault in words. -/
def KeyFault.message : KeyFault → List Char
  | noCount isField text =>
    ofText (if isField then "invalid number at field start" else "invalid number after '.'") ++
      ofText ": invalid count at start of " ++ quotedValue text
  | zeroField text =>
    ofText "field number is zero: invalid field specification " ++ quotedValue text
  | zeroOffset text =>
    ofText "character offset is zero: invalid field specification " ++ quotedValue text
  | badLetter text => ofText "stray character in field spec: invalid field specification " ++ quotedValue text

/-- A number at the begin of a text, and what is behind it. -/
def keyNumber (isField : Bool) (text : List Char) : Except KeyFault (Nat × List Char) :=
  let number := text.takeWhile Char.isDigit
  match decimal? number with
  | some value => .ok (value, text.drop number.length)
  | none => .error (.noCount isField text)

/-- A place of a key: a field, a character behind a point, and what is behind them. -/
def keyPlace (text : List Char) : Except KeyFault (Nat × Option Nat × List Char) := do
  let (field, rest) ← keyNumber true text
  match rest with
  | '.' :: rest =>
    let (offset, rest) ← keyNumber false rest
    return (field, some offset, rest)
  | rest => return (field, none, rest)

/-- Reads a key. -/
def readSortKey (text : List Char) : Except KeyFault SortKey := do
  let isLetter (c : Char) : Bool := "bdfginhMRrV".toList.contains c
  let comparison (letters : List Char) : Option Comparison :=
    if letters.isEmpty then none else some (.ofLetters letters.contains)
  let (field, offset, rest) ← keyPlace text
  if field = 0 then throw (.zeroField text)
  if offset = some 0 then throw (.zeroOffset text)
  let letters := rest.takeWhile isLetter
  match rest.drop letters.length with
  | [] => return ⟨field - 1, offset.getD 1 - 1, none, comparison letters⟩
  | ',' :: stop =>
    let (final, count, rest) ← keyPlace stop
    if final = 0 then throw (.zeroField text)
    let more := rest.takeWhile isLetter
    if more.length < rest.length then throw (.badLetter text)
    return ⟨field - 1, offset.getD 1 - 1, some (final, count.getD 0), comparison (letters ++ more)⟩
  | _ => throw (.badLetter text)

/-- The character between fields that is asked for. -/
def fieldSeparator (text : List Char) : Except (List Char) Char :=
  match text with
  | [] => .error (ofText "empty tab")
  | [c] => .ok c
  | ['\\', '0'] => .ok '\x00'
  | text => .error (ofText "multi-character tab " ++ quotedValue text)

/-- The fields of a line without separator: each begins with the blanks before it. -/
def blankFields : (inBlanks : Bool) → List Char → List (List Char)
  | _, [] => [[]]
  | inBlanks, c :: rest =>
    let isBlank := c = ' ' || c = '\t'
    if isBlank && !inBlanks then
      [] :: (match blankFields true rest with
        | field :: fields => (c :: field) :: fields
        | [] => [[c]])
    else match blankFields (inBlanks && isBlank) rest with
      | field :: fields => (c :: field) :: fields
      | [] => [[c]]

/-- The part of a line that a key names. -/
def SortKey.part (key : SortKey) (separator : Option Char) (line : List Char) : List Char :=
  let fields := match separator with
    | some c => FilePath.splitAt c line
    | none => blankFields true line
  let between := separator.toList
  let joined (fields : List (List Char)) : List Char := between.intercalate fields
  match key.last with
  | none => (joined (fields.drop key.field)).drop key.offset
  | some (last, 0) => (joined ((fields.take last).drop key.field)).drop key.offset
  | some (last, count) =>
    let before := joined ((fields.take (last - 1)).drop key.field)
    let before := if last - 1 > key.field then before ++ between else before
    (before ++ ((fields[last - 1]?).getD []).take count).drop key.offset

/-! ## Order -/

/-- The number at the begin of a text, as an integer and how many of its digits are
behind the point. -/
def leadingNumber (text : List Char) : Int × Nat :=
  let text := text.dropWhile Numeral.isSpace
  let (isNegative, text) := match text with
    | '-' :: rest => (true, rest)
    | rest => (false, rest)
  let whole := text.takeWhile Char.isDigit
  let places := match text.drop whole.length with
    | '.' :: rest => rest.takeWhile Char.isDigit
    | _ => []
  let size : Int := digitsValue (whole ++ places)
  (if isNegative then -size else size, places.length)

/-- Whether a number is smaller than another one. -/
def isSmaller (a b : Int × Nat) : Bool :=
  a.1 * (Nat.pow 10 b.2 : Nat) < b.1 * (Nat.pow 10 a.2 : Nat)

/-- How a text compares with another one. -/
def Comparison.compare (comparison : Comparison) (a b : List Char) : Ordering :=
  let order :=
    if comparison.isNumeric then
      let (m, n) := (leadingNumber a, leadingNumber b)
      if isSmaller m n then .lt else if isSmaller n m then .gt else .eq
    else
      let normal (text : List Char) : List Char :=
        let text := if comparison.ignoresBlanks then text.dropWhile Numeral.isSpace else text
        if comparison.ignoresCase then text.map Char.toUpper else text
      let (s, t) := (normal a, normal b)
      if s = t then .eq else if Text.isAtMost s t then .lt else .gt
  if comparison.isReversed then order.swap else order

/-- How lines are sorted. -/
structure SortOrder where
  comparison : Comparison
  keys : List SortKey
  separator : Option Char
  /-- Whether lines that compare as equal stay in their order. -/
  isStable : Bool

/-- How a line compares with another one by the keys alone. -/
def SortOrder.byKeys (order : SortOrder) (a b : List Char) : Ordering :=
  if order.keys.isEmpty then order.comparison.compare a b
  else
    order.keys.foldl (fun result key =>
      let part := key.part order.separator
      let comparison := key.comparison.getD order.comparison
      result.then (comparison.compare (part a) (part b))) .eq

/-- How a line compares with another one. -/
def SortOrder.compare (order : SortOrder) (a b : List Char) : Ordering :=
  let last : Comparison := ⟨false, false, false, order.comparison.isReversed⟩
  (order.byKeys a b).then (if order.isStable then .eq else last.compare a b)

/-! ## Programs -/

/-- Entries without those that are equal to the one before them. -/
def withoutRepeats (isSame : List Char → List Char → Bool) : List (List Char) → List (List Char)
  | [] => []
  | [line] => [line]
  | line :: next :: lines =>
    let rest := withoutRepeats isSame (next :: lines)
    if isSame line next then line :: rest.tail else line :: rest

/-- The first line that does not stand behind the one before it, with its number. -/
def disorder? (isAllowed : List Char → List Char → Bool) : (number : Nat) → List (List Char) →
    Option (Nat × List Char)
  | number, a :: b :: lines =>
    if isAllowed a b then disorder? isAllowed (number + 1) (b :: lines) else some (number + 1, b)
  | _, _ => none

/-- Puts lines in order. -/
def sort (invocation : Invocation) : Finish :=
  let letters : Letters := ⟨"bcCdfghinrsuz", "kto", [("reverse", 'r'), ("numeric-sort", 'n'),
    ("unique", 'u'), ("key", 'k'), ("field-separator", 't'), ("ignore-case", 'f'), ("check", 'c'),
    ("ignore-leading-blanks", 'b'), ("stable", 's'), ("output", 'o')]⟩
  match readOptions letters false invocation.arguments with
  | .error fault => misuse 2 "sort" fault.message
  | .ok chosen =>
    let keys := (chosen.options.filter fun (letter, _) => letter = 'k').map fun (_, text) => text
    match keys.mapM readSortKey, (chosen.value? 't').mapM fieldSeparator with
    | .error fault, _ => fail 2 "sort" fault.message
    | _, .error text => fail 2 "sort" text
    | .ok keys, .ok separator =>
      let order : SortOrder := ⟨.ofLetters chosen.has, keys, separator, chosen.has 's' || chosen.has 'u'⟩
      let complaint (path : List Char) (reason : String) : List Char :=
        let cause := if reason = "Is a directory" then "read failed: " else "cannot read: "
        message "sort" (ofText cause ++ clearName path ++ ofText (": " ++ reason))
      let done := onFiles invocation chosen.operands 2 complaint fun _ text => text
      let lines := linesOf done.output
      if done.status ≠ 0 then { done with output := [] }
      else if chosen.has 'c' || chosen.has 'C' then
        let isAllowed (a b : List Char) : Bool :=
          if chosen.has 'u' then order.byKeys a b = .lt else order.compare a b ≠ .gt
        match disorder? isAllowed 1 lines with
        | none => write []
        | some (number, line) =>
          finish 1 [] (if chosen.has 'C' then [] else message "sort" (chosen.operands.headD ['-'] ++
            ofText (":" ++ toString number ++ ": disorder: ") ++ line))
      else
        let sorted := lines.mergeSort fun a b => order.compare a b ≠ .gt
        let isSame (a b : List Char) : Bool := order.byKeys a b = .eq
        let sorted := if chosen.has 'u' then withoutRepeats isSame sorted else sorted
        match chosen.value? 'o' with
        | none => write (joinLines sorted)
        | some path =>
          let octets := Run.octetsOf (joinLines sorted)
          { write [] with
            changes := some (invocation.tree.write invocation.directory (Run.shown path) octets) }

/-- Lines with how many equal ones stand together. -/
def counted (isSame : List Char → List Char → Bool) : List (List Char) → List (Nat × List Char)
  | [] => []
  | line :: lines =>
    match counted isSame lines with
    | (count, other) :: rest =>
      if isSame line other then (count + 1, line) :: rest else (1, line) :: (count, other) :: rest
    | [] => [(1, line)]

/-- Passes one of equal neighbours on. -/
def uniq (invocation : Invocation) : Finish :=
  let letters : Letters := ⟨"cdDiuz", "fsw", [("count", 'c'), ("repeated", 'd'), ("unique", 'u'),
    ("ignore-case", 'i'), ("skip-fields", 'f'), ("skip-chars", 's'), ("check-chars", 'w')]⟩
  withOptions "uniq" letters invocation fun chosen =>
    let number (letter : Char) : Nat := ((chosen.value? letter).bind decimal?).getD 0
    let part (line : List Char) : List Char :=
      let line := ((blankFields true line).drop (number 'f')).flatten.drop (number 's')
      let line := if (chosen.value? 'w').isSome then line.take (number 'w') else line
      if chosen.has 'i' then line.map Char.toLower else line
    let complaint (path : List Char) (reason : String) : List Char :=
      if reason = "Is a directory" then
        message "uniq" (ofText "error reading " ++ quotedValue path ++ ofText (": " ++ reason))
      else fileFault "uniq" path reason
    onTexts invocation (chosen.operands.take 1) complaint fun text =>
      let entries := counted (fun a b => part a = part b) (linesOf text)
      let entries := if chosen.has 'd' then entries.filter fun (count, _) => count > 1 else entries
      let entries := if chosen.has 'u' then entries.filter fun (count, _) => count = 1 else entries
      write (joinLines (entries.map fun (count, line) =>
        if chosen.has 'c' then padFront 7 (digits count) ++ [' '] ++ line else line))

end TmuxLayout.Shell.Tool
