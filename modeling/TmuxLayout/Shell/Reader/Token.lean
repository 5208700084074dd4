import TmuxLayout.Shell.Reader.Word
import TmuxLayout.Text.Search

/-!
# Reading tokens

- `reservedWords`: words with a meaning of their own where a command begins.
- `nextToken`: the next token.
- `replaceAlias`: puts the text of an alias in its place.
- `readRedirection`: a redirection behind its descriptor.
- `readDocuments`: texts that follow the line where they are asked for.
-/

namespace TmuxLayout.Shell

/-- Words with a meaning of their own where a command begins. -/
def reservedWords : List String :=
  ["!", "case", "do", "done", "elif", "else", "esac", "fi", "for", "if", "in", "then", "until",
    "while", "\x7b", "\x7d"]

/-- A word as a reserved word, if it is one. -/
def reserved? (pieces : List Piece) : Option String :=
  match pieces with
  | [.text false text] =>
    let word := String.ofList text
    if reservedWords.contains word then some word else none
  | _ => none

/-- The characters of a word as they are, and whether any is quoted. -/
def plainText (pieces : List Piece) : List Char × Bool :=
  pieces.foldl (fun (text, anyQuoted) piece =>
    match piece with
    | .text quoted part => (text ++ part, anyQuoted || quoted)
    | _ => (text, anyQuoted)) ([], false)

/-- Reads the lines of a document that stands for itself. -/
def readPlainDocument : Parse (List Char) :=
  iterate ([] : List Char) fun done => do
    match (← get).rest with
    | [] => return .finish done.reverse
    | c :: rest =>
      if c = '\n' then Parse.goToNextLine rest else Parse.goTo rest
      let isEnd ← if c = '\n' then Parse.endsDocument else pure false
      return if isEnd then .finish (c :: done).reverse else .again (c :: done)

/-- Reads a document up to its end. -/
def readDocument (inner : Inner) (document : Document) : Parse (List Piece) :=
  Parse.apart do
    modify fun position => { position with ending := some document.ending }
    if ← Parse.endsDocument then return []
    else if document.isPlain then return [.text true (← readPlainDocument)]
    else inner (.pieces .document)

/-- Reads the documents that begin here. -/
def readDocuments (inner : Inner) : Parse Unit := do
  let waiting := (← get).waiting
  modify fun position => { position with waiting := [] }
  waiting.forM fun document => do
    let pieces ← readDocument inner document
    modify fun position =>
      { position with documents := position.documents ++ [(document.number, pieces)] }

/-- Asks for a document that begins behind the end of the line. Its pieces are those
that are known of it. -/
def askForDocument (ending : DocumentEnd) (isPlain : Bool) : Parse (List Piece) := do
  let position ← get
  let number := position.documentCount
  let document : Document := ⟨number, ending, isPlain⟩
  set { position with
    documentCount := number + 1, waiting := position.waiting ++ [document] }
  return (position.known.lookup number).getD []

/-- The text behind white space and escaped ends of lines, and how many of
those. -/
def skipToToken (escapedLines : Nat) : List Char → List Char × Nat
  | ' ' :: rest => skipToToken escapedLines rest
  | '\t' :: rest => skipToToken escapedLines rest
  | '\\' :: '\n' :: rest => skipToToken (escapedLines + 1) rest
  | text => (text, escapedLines)

/-- Whether more of an operator may follow a character. -/
def beginsOperator (c : Char) : Bool :=
  ['&', '|', ';', '<', '>'].contains c

/-- Joins lines within an operator that begins here, and behind one that may be
longer. A digit may begin one as well. -/
def joinOperator : Parse Unit := do
  let hasDigit := (← get).rest.head?.any Char.isDigit
  let count := if hasDigit then 1 else 0
  if hasDigit then Parse.joinBehind 1
  if ((← get).rest.drop count).head?.any beginsOperator then Parse.joinBehind (count + 1)
  if ((← get).rest.drop count).take 2 = ['<', '<'] then Parse.joinBehind (count + 2)

/-- Goes on behind white space, escaped ends of lines and a comment. -/
def skipToTokenHere : Parse Unit := do
  let (text, escapedLines) := skipToToken 0 (← get).rest
  let text := if text.head? = some '#' then text.dropWhile (· ≠ '\n') else text
  modify fun position => { position with rest := text, line := position.line + escapedLines }
  joinOperator

/-- Operators, longer ones first. -/
def operators : List String :=
  ["&&", "&", "||", "|", ";;", ";", "(", ")"]

/-- The operator at the begin of a text, and what is behind it. -/
def operator? (text : List Char) : Option (String × List Char) :=
  operators.findSome? fun name => (Text.after? name.toList text).map fun rest => (name, rest)

/-- The operator of a redirection at the begin of a text, as its kind and the
descriptor it is about, and what is behind it. -/
def redirectOperator? : List Char → Option (RedirectKind × Nat × List Char)
  | '>' :: '>' :: rest => some (.append, 1, rest)
  | '>' :: '&' :: rest => some (.duplicate, 1, rest)
  | '>' :: '|' :: rest => some (.overwrite, 1, rest)
  | '>' :: rest => some (.output, 1, rest)
  | '<' :: '<' :: rest => some (.here, 0, rest)
  | '<' :: '&' :: rest => some (.duplicate, 0, rest)
  | '<' :: '>' :: rest => some (.inputOutput, 0, rest)
  | '<' :: rest => some (.input, 0, rest)
  | _ => none

/-- The begin of a redirection: its operator, with a digit before it for another
descriptor. -/
def redirection? : List Char → Option (RedirectKind × Nat × List Char)
  | [] => none
  | c :: rest =>
    if c.isDigit then
      (redirectOperator? rest).map fun (kind, _, rest) => (kind, c.toNat - '0'.toNat, rest)
    else redirectOperator? (c :: rest)

/-- Reads a word in a context, which has to be there. -/
def readTarget (inner : Inner) (context : Context) : Parse (List Piece) := do
  skipToTokenHere
  let text := (← get).rest
  match text with
  | [] => Parse.unexpected .ended none
  | c :: rest =>
    if c = '\n' then
      Parse.goToNextLine rest
      Parse.unexpected .newline none
    else match operator? text, redirection? text with
      | some (name, _), _ => Parse.unexpected (.mark name) none
      | none, some (kind, descriptor, _) => Parse.unexpected (.redirection kind descriptor) none
      | none, none => readPieces inner context

/-- Reads a redirection behind its operator. -/
def readRedirection (inner : Inner) (kind : RedirectKind) (descriptor : Nat) :
    Parse Redirection := do
  match kind with
  | .here =>
    let dropsTabs := (← get).rest.head? = some '-'
    if dropsTabs then Parse.goTo (← get).rest.tail
    let (line, isPlain) := plainText (← readTarget inner (.ending false))
    return .mk descriptor .here (← askForDocument ⟨line, dropsTabs⟩ isPlain)
  | kind => return .mk descriptor kind (← readTarget inner .bare)

/-- Reads a token. -/
def readToken (inner : Inner) : Parse Token := do
  skipToTokenHere
  let text := (← get).rest
  match text with
  | [] => return .ended
  | '\n' :: rest =>
    Parse.goToNextLine rest
    readDocuments inner
    return .newline
  | _ =>
    match operator? text, redirection? text with
    | some (name, rest), _ =>
      Parse.goTo rest
      return .mark name
    | none, some (kind, descriptor, rest) =>
      Parse.goTo rest
      return .redirection kind descriptor
    | none, none => return .word (← readPieces inner .bare)

/-- The token that is held, or else the next one. -/
def heldOrNext (inner : Inner) : Parse Token := do
  match (← get).held with
  | some token =>
    modify fun position => { position with held := none }
    return token
  | none => readToken inner

/-- Where a token is read. -/
inductive TokenPlace where
  /-- Among the words of a command. -/
  | argument
  /-- Behind assignments, where the first word may still come. -/
  | firstWord
  /-- Where a command begins or ends. -/
  | start
deriving Repr, DecidableEq

/-- Whether a word that was just read may be an alias: where a command begins,
and right behind the text of an alias that ends in a blank. -/
def mayBeAlias (place : TokenPlace) : Parse Bool := do
  let position ← get
  let followsBlank := position.blankAt.any (position.rest.length < ·)
  if followsBlank then set { position with blankAt := none }
  return place ≠ .argument || followsBlank

/-- Replaces a word that was just read if it is an alias, and tells whether it
was. An alias within its own text is none. -/
def replaceAlias (pieces : List Piece) : Parse Bool := do
  let position ← get
  match pieces with
  | [.text false name] =>
    match position.aliases.lookup name with
    | none => return false
    | some text =>
      let left := position.rest.length
      let inUse := position.inUse.filter fun (_, mark) => mark ≤ left
      if (inUse.lookup name).isSome then return false
      let endsInBlank := text.getLast?.any fun c => c = ' ' || c = '\t'
      set { position with
        rest := text ++ position.rest
        inUse := (name, left) :: inUse
        blankAt := if endsInBlank then some left else position.blankAt }
      return true
  | _ => return false

/-- The next token. Ends of lines may be passed over, and where a command begins
words may be reserved ones or aliases. -/
def nextToken (inner : Inner) (passLines : Bool) (place : TokenPlace) : Parse Token :=
  iterate () fun () => do
    match ← heldOrNext inner with
    | .newline => return if passLines then .again () else .finish .newline
    | .word pieces =>
      let aliased ← mayBeAlias place
      match reserved? pieces, place with
      | some name, .start => return .finish (.mark name)
      | _, _ =>
        if aliased then
          if ← replaceAlias pieces then return .again ()
        return .finish (.word pieces)
    | token => return .finish token

end TmuxLayout.Shell
