import TmuxLayout.Yaml.Block
import TmuxLayout.Yaml.Plain
import TmuxLayout.Yaml.Quoted
import TmuxLayout.Yaml.Tag

/-!
# From text to tokens

The scanner remembers where a key may have begun. When the colon behind it is
found, a `key` token is put before the key, and the start of a mapping too if
the key is indented more than the block around it. Such a simple key lies on one
line and has at most 1024 octets.

- `SimpleKey`, `Scanner`: the state.
- `Scanner.rollIndent`, `Scanner.unrollIndent`: blocks that begin and end.
- `Scanner.skipToToken`: blanks, comments and line breaks.
- `Scanner.step`: reads one token.
- `Token.ofText`: the tokens of a text.
-/

namespace TmuxLayout.Yaml

/-- A place where a key may have begun. -/
structure SimpleKey where
  /-- Whether anything but a key would be a fault there. -/
  required : Bool
  /-- The number of tokens before it. -/
  tokenIndex : Nat
  place : Place

/-- The state of the scanner. -/
structure Scanner where
  cursor : Cursor
  tokens : Array Token
  /-- The column of the innermost block. -/
  indent : Option Nat
  /-- The columns of the blocks around it. -/
  outerIndents : List (Option Nat)
  /-- The possible key outside all brackets, or within the innermost ones. -/
  simpleKey : Option SimpleKey
  /-- The possible keys around the brackets that are open, innermost first. -/
  outerKeys : List (Option SimpleKey)
  /-- Whether a key may begin at the cursor. -/
  keyAllowed : Bool

namespace Scanner

/-- The scanner at the beginning of a text. -/
def ofText (text : List Char) : Scanner :=
  ⟨Cursor.ofText text, #[], none, [], none, [], true⟩

/-- Whether brackets are open. -/
def inFlow (s : Scanner) : Bool :=
  !s.outerKeys.isEmpty

/-- A fault at the cursor. -/
def fault (s : Scanner) (cause : Cause) : Error :=
  s.cursor.fault cause

/-- Adds a token at the cursor. -/
def push (s : Scanner) (kind : TokenKind) : Scanner :=
  { s with tokens := s.tokens.push ⟨kind, s.cursor.place⟩ }

/-- Adds a token at the cursor and moves behind its `width` characters. -/
def pushOver (s : Scanner) (kind : TokenKind) (width : Nat) : Scanner :=
  { s.push kind with cursor := s.cursor.drop width }

/-- Puts a token before the token with a number. -/
def insert (s : Scanner) (index : Nat) (token : Token) : Scanner :=
  { s with tokens := s.tokens.insertIdxIfInBounds index token }

/-! ## Blocks -/

/-- Begins a block at a column if it is indented more than the one around it;
its token goes before the token with number `index`, or to the end. -/
def rollIndent (s : Scanner) (column : Nat) (index : Option Nat) (token : Token) : Scanner :=
  if s.inFlow || !(s.indent.all (· < column)) then s
  else
    let s := { s with indent := some column, outerIndents := s.indent :: s.outerIndents }
    match index with
    | some index => s.insert index token
    | none => { s with tokens := s.tokens.push token }

/-- The ends of the blocks whose column lies behind `column`; `none` stands for
a column before the first. -/
def closeBlocks (column : Option Nat) (place : Place) :
    (indent : Option Nat) → (outer : List (Option Nat)) → Array Token →
      Option Nat × List (Option Nat) × Array Token
  | indent, [], tokens => (indent, [], tokens)
  | indent, next :: outer, tokens =>
    if indent.any fun i => column.all (· < i) then
      closeBlocks column place next outer (tokens.push ⟨.blockEnd, place⟩)
    else (indent, next :: outer, tokens)

/-- Ends the blocks whose column lies behind `column`. -/
def unrollIndent (s : Scanner) (column : Option Nat) : Scanner :=
  if s.inFlow then s
  else
    let (indent, outer, tokens) := closeBlocks column s.cursor.place s.indent s.outerIndents s.tokens
    { s with indent := indent, outerIndents := outer, tokens := tokens }

/-! ## Simple keys -/

/-- Whether a possible key can no longer be one at a place. -/
def SimpleKey.isStale (key : SimpleKey) (place : Place) : Bool :=
  key.place.line < place.line || key.place.index + 1024 < place.index

/-- Gives up a possible key that lies too far back; one that is required is a
fault. -/
def dropStale (place : Place) : Option SimpleKey → Except Error (Option SimpleKey)
  | none => .ok none
  | some key =>
    if SimpleKey.isStale key place then
      if key.required then .error ⟨.missingColon, key.place⟩ else .ok none
    else .ok (some key)

/-- Gives up all possible keys that lie too far back. -/
def dropStaleKeys (s : Scanner) : Except Error Scanner := do
  let outerKeys ← s.outerKeys.mapM (dropStale s.cursor.place)
  let simpleKey ← dropStale s.cursor.place s.simpleKey
  return { s with simpleKey := simpleKey, outerKeys := outerKeys }

/-- Gives up the innermost possible key. -/
def removeKey (s : Scanner) : Except Error Scanner :=
  match s.simpleKey with
  | some key =>
    if key.required then .error ⟨.missingColon, key.place⟩
    else .ok { s with simpleKey := none }
  | none => .ok s

/-- Notes that a key may begin at the cursor. A key is required where a block
mapping goes on. -/
def saveKey (s : Scanner) : Except Error Scanner := do
  if !s.keyAllowed then return s
  let required := !s.inFlow && s.indent = some s.cursor.column
  let s ← s.removeKey
  return { s with simpleKey := some ⟨required, s.tokens.size, s.cursor.place⟩ }

/-! ## Blanks between tokens -/

/-- Moves over blanks, comments and line breaks. A tab counts as a blank only
where no key may begin, and a new line allows a key outside brackets. -/
def skipFrom (inFlow : Bool) : (keyAllowed inComment : Bool) → List Char → Place → Bool × Cursor
  | keyAllowed, _, [], place => (keyAllowed, ⟨[], place⟩)
  | keyAllowed, inComment, c :: rest, place =>
    if isBreak c then skipFrom inFlow (keyAllowed || !inFlow) false rest (place.after c)
    else if inComment || (place.column = 0 && c = byteOrderMark) || c = ' ' ||
        ((inFlow || !keyAllowed) && c = '\t') then
      skipFrom inFlow keyAllowed inComment rest (place.after c)
    else if c = '#' then skipFrom inFlow keyAllowed true rest (place.after c)
    else (keyAllowed, ⟨c :: rest, place⟩)

/-- Moves to the next token. -/
def skipToToken (s : Scanner) : Scanner :=
  let (keyAllowed, cursor) := skipFrom s.inFlow s.keyAllowed false s.cursor.rest s.cursor.place
  { s with keyAllowed := keyAllowed, cursor := cursor }

/-! ## Tokens -/

/-- Reads a token that stands outside all blocks. -/
def betweenDocuments (s : Scanner) : Except Error Scanner := do
  let s ← (s.unrollIndent none).removeKey
  return { s with keyAllowed := false }

/-- Opens brackets. -/
def openFlow (s : Scanner) (kind : TokenKind) : Except Error Scanner := do
  let s ← s.saveKey
  let s := { s with outerKeys := s.simpleKey :: s.outerKeys, simpleKey := none, keyAllowed := true }
  return s.pushOver kind 1

/-- Closes brackets. -/
def closeFlow (s : Scanner) (kind : TokenKind) : Except Error Scanner := do
  let s ← s.removeKey
  let s := match s.outerKeys with
    | key :: keys => { s with simpleKey := key, outerKeys := keys }
    | [] => s
  return { s with keyAllowed := false }.pushOver kind 1

/-- Reads the comma between items in brackets. -/
def flowEntry (s : Scanner) : Except Error Scanner := do
  let s ← s.removeKey
  return { s with keyAllowed := true }.pushOver .flowEntry 1

/-- Begins a block at the cursor, where one is allowed to. -/
def beginBlock (s : Scanner) (kind : TokenKind) (cause : Cause) : Except Error Scanner :=
  if s.inFlow then .ok s
  else if !s.keyAllowed then .error (s.fault cause)
  else .ok (s.rollIndent s.cursor.column none ⟨kind, s.cursor.place⟩)

/-- Reads the dash before an item. -/
def blockEntry (s : Scanner) : Except Error Scanner := do
  let s ← s.beginBlock .blockSequenceStart .misplacedEntry
  let s ← s.removeKey
  return { s with keyAllowed := true }.pushOver .blockEntry 1

/-- Reads the question mark before a key. -/
def explicitKey (s : Scanner) : Except Error Scanner := do
  let s ← s.beginBlock .blockMappingStart .misplacedKey
  let s ← s.removeKey
  return { s with keyAllowed := !s.inFlow }.pushOver .key 1

/-- Reads the colon before a value. With a possible key before it, the key gets
its token now. -/
def mappingValue (s : Scanner) : Except Error Scanner := do
  match s.simpleKey with
  | some key =>
    let s := s.insert key.tokenIndex ⟨.key, key.place⟩
    let s := s.rollIndent key.place.column (some key.tokenIndex) ⟨.blockMappingStart, key.place⟩
    return { s with simpleKey := none, keyAllowed := false }.pushOver .value 1
  | none =>
    let s ← s.beginBlock .blockMappingStart .misplacedValue
    return { s with keyAllowed := !s.inFlow }.pushOver .value 1

/-- Adds a token that was read behind the cursor, where a key may have begun. -/
def content (s : Scanner) (read : Cursor → Except Error (TokenKind × Cursor)) :
    Except Error Scanner := do
  let s ← s.saveKey
  let (kind, cursor) ← read s.cursor
  return { s.push kind with cursor := cursor, keyAllowed := false }

/-- Reads a block scalar. -/
def blockScalar (s : Scanner) (folded : Bool) : Except Error Scanner := do
  let s ← s.removeKey
  let (text, cursor) ← readBlock folded s.indent s.cursor.next
  return { s.push (.scalar .block text) with cursor := cursor, keyAllowed := true }

/-- Reads a plain scalar. A line break behind it allows a key. -/
def plainScalar (s : Scanner) : Except Error Scanner := do
  let s ← s.saveKey
  let indent := match s.indent with
    | some column => column + 1
    | none => 0
  let plain ← readPlain s.inFlow indent [] .none s.cursor.rest s.cursor.place
  return { s.push (.scalar .plain plain.text) with
    cursor := plain.cursor, keyAllowed := plain.endsLine }

/-- Characters that begin no plain scalar: indicators, and a tab that cannot be
skipped. -/
def isIndicator (c : Char) : Bool :=
  "\t-?:,[]\x7b\x7d#&*!|>'\"%@`".contains c

/-- Whether a plain scalar begins at a text. -/
def startsPlain (inFlow : Bool) : List Char → Bool
  | '-' :: rest => !(rest.head?.any isBlank)
  | '?' :: rest | ':' :: rest => !inFlow && !startsBlank rest
  | c :: _ => !isIndicator c
  | [] => false

/-- Reads one token; there is a character at the cursor. -/
def readToken (s : Scanner) : Except Error Scanner :=
  let rest := s.cursor.rest
  if s.cursor.column = 0 && s.cursor.startsWith '%' then do
    let s ← s.betweenDocuments
    let (kind, cursor) ← readDirective s.cursor
    return { s.push kind with cursor := cursor }
  else if s.cursor.atDocumentMark then do
    let kind := if s.cursor.startsWith '-' then TokenKind.documentStart else .documentEnd
    let s ← s.betweenDocuments
    return s.pushOver kind 3
  else match rest with
    | '[' :: _ => s.openFlow .flowSequenceStart
    | '\x7b' :: _ => s.openFlow .flowMappingStart
    | ']' :: _ => s.closeFlow .flowSequenceEnd
    | '\x7d' :: _ => s.closeFlow .flowMappingEnd
    | ',' :: _ => s.flowEntry
    | '*' :: _ => s.content fun cursor => do
      let (name, cursor) ← readName cursor.next
      return (.aliasOf name, cursor)
    | '&' :: _ => s.content fun cursor => do
      let (name, cursor) ← readName cursor.next
      return (.anchor name, cursor)
    | '!' :: _ => s.content (readTag s.inFlow)
    | '\'' :: _ => s.content fun cursor => do
      let (text, cursor) ← readSingleQuoted [] .none cursor.next.rest cursor.next.place
      return (.scalar .quoted text, cursor)
    | '"' :: _ => s.content fun cursor => do
      let (text, cursor) ← readDoubleQuoted [] .none cursor.next.rest cursor.next.place
      return (.scalar .quoted text, cursor)
    | c :: behind =>
      if c = '-' && startsBlank behind then s.blockEntry
      else if c = '?' && (s.inFlow || startsBlank behind) then s.explicitKey
      else if c = ':' && (s.inFlow || startsBlank behind) then s.mappingValue
      else if c = '|' && !s.inFlow then s.blockScalar false
      else if c = '>' && !s.inFlow then s.blockScalar true
      else if startsPlain s.inFlow rest then s.plainScalar
      else .error (s.fault .unexpectedCharacter)
    | [] => .error (s.fault .unexpectedCharacter)

/-- Reads tokens to the end of the text. Every token takes a character, so the
steps do not run out. -/
def run : (steps : Nat) → Scanner → Except Error Scanner
  | 0, s => .ok s
  | steps + 1, s => do
    let s ← s.skipToToken.dropStaleKeys
    let s := s.unrollIndent (some s.cursor.column)
    if s.cursor.rest.isEmpty then s.betweenDocuments
    else
      let s ← s.readToken
      run steps s

end Scanner

/-- The first character that may not stand in a text. -/
def firstForbidden? (text : List Char) : Option Place :=
  let cursor := (Cursor.ofText text).skipWhile isAllowed
  if cursor.rest.isEmpty then none else some cursor.place

/-- The tokens of a text. -/
def Token.ofText (text : List Char) : Except Error (List Token) := do
  match firstForbidden? text with
  | some place => throw ⟨.forbiddenCharacter, place⟩
  | none =>
    let text := unifyBreaks text
    let s ← (Scanner.ofText text).run (text.length + 1)
    return s.tokens.toList

end TmuxLayout.Yaml
