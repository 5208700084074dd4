import TmuxLayout.Shell.Formatting
import TmuxLayout.Shell.Tools.Lines

/-!
# Programs about characters and columns

- `Tool.cut`: passes parts of lines on.
- `Tool.tr`: replaces, deletes or squeezes characters.
- `Tool.paste`: puts lines side by side.
- `Tool.od`: shows octets.
-/

namespace TmuxLayout.Shell.Tool

/-! ## Parts of lines -/

/-- Ranges of places, counted from one; the last place may be open. -/
abbrev Places := List (Nat × Option Nat)

/-- Whether a place is within ranges. -/
def Places.has (places : Places) (place : Nat) : Bool :=
  places.any fun (low, high) => low ≤ place && high.all (place ≤ ·)

/-- Reads a range of places. -/
def placeRange? (text : List Char) : Option (Nat × Option Nat) :=
  match FilePath.splitAt '-' text with
  | [single] => (decimal? single).map fun n => (n, some n)
  | [[], []] => none
  | [[], high] => (decimal? high).map fun n => (1, some n)
  | [low, []] => (decimal? low).map fun n => (n, none)
  | [low, high] => do return (← decimal? low, some (← decimal? high))
  | _ => none

/-- Reads ranges of places with commas between them. -/
def places? (text : List Char) : Option Places :=
  (FilePath.splitAt ',' text).mapM placeRange?

/-- The members of a list at places. -/
def atPlaces {α : Type} (chosen : Nat → Bool) (members : List α) : List α :=
  (members.zipIdx 1).filterMap fun (member, place) => if chosen place then some member else none

/-- Passes parts of lines on. -/
def cut (invocation : Invocation) : Finish :=
  let letters : Letters := ⟨"nszC", "bcdfO", [("bytes", 'b'), ("characters", 'c'), ("delimiter", 'd'),
    ("fields", 'f'), ("only-delimited", 's'), ("complement", 'C'), ("output-delimiter", 'O')]⟩
  withOptions "cut" letters invocation fun chosen =>
    let lists := chosen.options.filter fun (letter, _) => ['b', 'c', 'f'].contains letter
    match lists with
    | [] => misuse 1 "cut" (ofText "you must specify a list of bytes, characters, or fields")
    | [(letter, text)] =>
      match places? text with
      | none =>
        misuse 1 "cut" (ofText (if letter = 'f' then "invalid field value " else
          "invalid byte/character position ") ++ quotedValue text)
      | some places =>
        if places.any fun (low, _) => low = 0 then
          misuse 1 "cut" (ofText (if letter = 'f' then "fields are numbered from 1" else
            "byte/character positions are numbered from 1"))
        else if places.any fun (low, high) => high.any (· < low) then
          misuse 1 "cut" (ofText "invalid decreasing range")
        else
          let isChosen (place : Nat) : Bool := places.has place != chosen.has 'C'
          let separator := (chosen.value? 'd').getD ['\t']
          if separator.length ≠ 1 then
            misuse 1 "cut" (ofText "the delimiter must be a single character")
          else
            let mark := separator.headD '\t'
            let line (text : List Char) : List (List Char) :=
              if letter ≠ 'f' then [atPlaces isChosen text]
              else if text.contains mark then
                [((chosen.value? 'O').getD separator).intercalate
                  (atPlaces isChosen (FilePath.splitAt mark text))]
              else if chosen.has 's' then []
              else [text]
            onAllFiles invocation "cut" chosen.operands fun text =>
              write (joinLines ((linesOf text).flatMap line))
    | _ => misuse 1 "cut" (ofText "only one type of list may be specified")

/-- Puts lines side by side: those of all files, or those of each file in one line. -/
def paste (invocation : Invocation) : Finish :=
  withOptions "paste" ⟨"s", "d", [("serial", 's'), ("delimiters", 'd')]⟩ invocation fun chosen =>
    let marks := match chosen.value? 'd' with
      | some text => (unescape text).1
      | none => ['\t']
    let joined (columns : List (List Char)) : List Char :=
      (columns.zipIdx.flatMap fun (column, i) =>
        (if i = 0 || marks.isEmpty then [] else [marks.getD ((i - 1) % marks.length) '\t']) ++ column) ++
        ['\n']
    let operands := operandsOrInput chosen.operands
    let texts := operands.filterMap fun path => (operandText invocation path).toOption
    if texts.length < operands.length then
      let missing := operands.filter fun path => (operandText invocation path).toOption.isNone
      aside (finish 1 [] (fileFault "paste" (missing.headD []) "No such file or directory"))
    else if chosen.has 's' then
      write (foldFiles invocation operands [] fun done _ text =>
        done ++ text.toOption.elim [] fun text => joined (linesOf text))
    else
      let hyphens := operands.count ['-']
      let columns := (operands.zip texts).zipIdx.map fun ((path, text), place) =>
        if path = ['-'] then
          let before := (operands.take place).count ['-']
          ((linesOf text).zipIdx.filter fun (_, i) => i % hyphens = before).map (·.1)
        else linesOf text
      let height := (columns.map List.length).foldl max 0
      write ((List.range height).flatMap fun i => joined (columns.map fun lines => lines.getD i []))

/-! ## Characters -/

/-- The characters of a class in order. -/
def classMembers (name : List Char) : List Char :=
  let item := (namedClass? (String.ofList name)).map (PatternItem.range false)
  (List.range 256).filterMap fun n =>
    let c := Char.ofNat n
    if item.any fun item => item.fits c then some c else none

/-- The characters that a text for sets stands for, with escapes carried out; the
steps are bounded. -/
def setMembers : Nat → List Char → List Char
  | 0, _ | _, [] => []
  | steps + 1, '[' :: ':' :: rest =>
    let name := rest.takeWhile Char.isAlpha
    match rest.drop name.length with
    | ':' :: ']' :: behind => classMembers name ++ setMembers steps behind
    | _ => '[' :: setMembers steps (':' :: rest)
  | steps + 1, c :: rest =>
    let (c, rest) := if c = '\\' then readEscape rest else (c, rest)
    let (c, rest) := match c, rest with
      | '\\', other :: behind => if other = '-' || other = ']' then (other, behind) else (c, rest)
      | c, rest => (c, rest)
    match rest with
    | '-' :: high :: behind =>
      let (high, behind) := if high = '\\' then readEscape behind else (high, behind)
      (List.range (high.toNat + 1 - c.toNat)).map (fun i => Char.ofNat (c.toNat + i)) ++
        setMembers steps behind
    | rest => c :: setMembers steps rest

/-- Characters without equal neighbours out of a set. -/
def squeezedChars (isMember : Char → Bool) : List Char → List Char
  | [] => []
  | c :: rest =>
    if isMember c && rest.head? = some c then squeezedChars isMember rest
    else c :: squeezedChars isMember rest

/-- Replaces, deletes or squeezes characters. -/
def tr (invocation : Invocation) : Finish :=
  let letters : Letters := ⟨"cCdst", "", [("complement", 'c'), ("delete", 'd'),
    ("squeeze-repeats", 's'), ("truncate-set1", 't')]⟩
  withOptions "tr" letters invocation fun chosen =>
    let members (text : List Char) : List Char := setMembers (text.length + 1) text
    let isOutside := chosen.has 'c' || chosen.has 'C'
    let isIn (set : List Char) (c : Char) : Bool := set.contains c != isOutside
    let deletes := chosen.has 'd'
    let squeezes := chosen.has 's'
    match chosen.operands with
    | [] => misuse 1 "tr" (ofText "missing operand")
    | [first] =>
      let set := members first
      if deletes && !squeezes then write (invocation.input.filter fun c => !isIn set c)
      else if squeezes && !deletes then write (squeezedChars (isIn set) invocation.input)
      else
        let reason := ofText (if deletes then
          "Two strings must be given when both deleting and squeezing repeats.\n" else
          "Two strings must be given when translating.\n")
        aside (finish 1 [] (message "tr" (ofText "missing operand after " ++ quotedValue first) ++
          reason ++ helpLine "tr"))
    | [first, second] =>
      let (set, others) := (members first, members second)
      let set := if isOutside && !deletes then
        ((List.range 256).map Char.ofNat).filter fun c => !set.contains c else set
      if deletes && squeezes then
        write (squeezedChars others.contains (invocation.input.filter fun c => !isIn set c))
      else if deletes then
        aside (finish 1 [] (message "tr" (ofText "extra operand " ++ quotedValue second) ++
          ofText "Only one string may be given when deleting without squeezing repeats.\n" ++
          helpLine "tr"))
      else if others.isEmpty then
        fail 1 "tr" (ofText "when not truncating set1, string2 must be non-empty")
      else
        let last := others.getLast?.getD ' '
        let pairs := set.zipIdx.map fun (c, i) => (c, others.getD i last)
        let pairs := if chosen.has 't' then pairs.take others.length else pairs
        let replaced := invocation.input.map fun c => ((pairs.reverse.lookup c)).getD c
        write (if squeezes then squeezedChars others.contains replaced else replaced)
    | _ :: _ :: extra :: _ => misuse 1 "tr" (ofText "extra operand " ++ quotedValue extra)

/-! ## Octets -/

/-- A number in some base with a number of digits. -/
def padded (base width number : Nat) : List Char :=
  let digits := Nat.toDigits base number
  List.replicate (width - digits.length) '0' ++ digits

/-- An octet as a character or an escape. -/
def octetShown (c : Char) : List Char :=
  match c with
  | '\x00' => ofText "\\0"
  | '\x07' => ofText "\\a"
  | '\x08' => ofText "\\b"
  | '\t' => ofText "\\t"
  | '\n' => ofText "\\n"
  | '\x0b' => ofText "\\v"
  | '\x0c' => ofText "\\f"
  | '\x0d' => ofText "\\r"
  | c => if 32 ≤ c.toNat && c.toNat < 127 then [c] else padded 8 3 c.toNat

/-- Pairs of octets as numbers, the second one counting more. -/
def pairsOf : List Char → List Nat
  | [] => []
  | [c] => [c.toNat]
  | c :: d :: rest => (c.toNat + 256 * d.toNat) :: pairsOf rest

/-- Octets in the way that a type names. -/
def octetsInType (type : List Char) (row : List Char) : Option (List Char) :=
  let each (width : Nat) (shown : Char → List Char) : Option (List Char) :=
    some (row.flatMap fun c => padFront width (shown c))
  match String.ofList type with
  | "c" => each 4 octetShown
  | "x1" => each 3 fun c => padded 16 2 c.toNat
  | "o1" => each 4 fun c => padded 8 3 c.toNat
  | "d1" | "u1" => each 4 fun c => digits c.toNat
  | "o2" => some ((pairsOf row).flatMap fun n => ' ' :: padded 8 6 n)
  | "x2" => some ((pairsOf row).flatMap fun n => ' ' :: padded 16 4 n)
  | _ => none

/-- Rows of sixteen octets; the steps are bounded. -/
def rowsOf : Nat → List Char → List (List Char)
  | 0, _ | _, [] => []
  | steps + 1, text => text.take 16 :: rowsOf steps (text.drop 16)

/-- Shows octets with the places of rows before them. -/
def od (invocation : Invocation) : Finish :=
  withOptions "od" ⟨"bcxv", "At", [("address-radix", 'A'), ("format", 't')]⟩ invocation fun chosen =>
    let type :=
      if chosen.has 'c' then ['c'] else if chosen.has 'b' then ofText "o1"
      else if chosen.has 'x' then ofText "x2" else (chosen.value? 't').getD (ofText "o2")
    let place (n : Nat) : List Char :=
      match chosen.value? 'A' with
      | some ['n'] => []
      | some ['d'] => padded 10 7 n
      | some ['x'] => padded 16 6 n
      | _ => padded 8 7 n
    onAllFiles invocation "od" chosen.operands fun text =>
      if (octetsInType type []).isNone then
        fail 1 "od" (ofText "invalid character " ++ quoted (type.take 1) ++
          ofText " in type string " ++ quotedValue type)
      else
        let rows := (rowsOf (text.length + 1) text).zipIdx
        let last := place text.length
        write (rows.flatMap (fun (row, i) =>
          place (16 * i) ++ (octetsInType type row).getD [] ++ ['\n']) ++
          if last.isEmpty then [] else last ++ ['\n'])

end TmuxLayout.Shell.Tool
