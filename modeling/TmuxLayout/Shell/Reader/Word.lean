import TmuxLayout.Shell.Reader.Basic

/-!
# Reading words

- `readPieces`: the pieces of a word in a context.
- `readDollar`: what a dollar sign begins.
- `readBackquoted`: a command between backquotes.
-/

namespace TmuxLayout.Shell

/-- The characters that end a word on its own. -/
def isSeparator (c : Char) : Bool :=
  [' ', '\t', '\n', '&', '|', ';', '(', ')', '<', '>'].contains c

/-- The names of parameters that are one character which is no letter. -/
def isSpecialParameter (c : Char) : Bool :=
  ['@', '*', '#', '?', '-', '$', '!'].contains c

/-- Whether a backslash takes the meaning of a character away within quotes. -/
def isEscapable (context : Context) (c : Char) : Bool :=
  match context with
  | .document => ['$', '\x60', '\\'].contains c
  | .braces _ => ['$', '\x60', '\\', '"', '\x7d'].contains c
  | _ => ['$', '\x60', '\\', '"'].contains c

/-- Joins neighboring texts that are both quoted or both not. -/
def joinPieces : List Piece → List Piece
  | [] => []
  | .text quoted text :: pieces =>
    match joinPieces pieces with
    | .text quoted' text' :: rest =>
      if quoted = quoted' then .text quoted (text ++ text') :: rest
      else .text quoted text :: .text quoted' text' :: rest
    | rest => .text quoted text :: rest
  | piece :: pieces => piece :: joinPieces pieces

/-- The text up to a closing backquote, with one level of backslashes taken away,
and what is behind it. -/
def backquotedText? (quoted : Bool) : List Char → Option (List Char × List Char)
  | [] => none
  | '\x60' :: rest => some ([], rest)
  | '\\' :: '\n' :: rest => backquotedText? quoted rest
  | '\\' :: c :: rest =>
    (backquotedText? quoted rest).map fun (text, rest) =>
      if ['\\', '\x60', '$'].contains c || (quoted && c = '"') then (c :: text, rest)
      else ('\\' :: c :: text, rest)
  | c :: rest => (backquotedText? quoted rest).map fun (text, rest) => (c :: text, rest)

/-- Reads a command between backquotes, behind the first of them. -/
def readBackquoted (inner : Inner) (quoted : Bool) : Parse Piece := do
  let position ← get
  match backquotedText? quoted position.rest with
  | none => throw ⟨position.line + position.rest.count '\n', .openBackquote⟩
  | some (text, rest) =>
    let taken := position.rest.take (position.rest.length - rest.length)
    let command ← Parse.within text (inner .tail)
    modify fun after => { after with rest, line := position.line + taken.count '\n' }
    return .output quoted command

/-- Reads a command between parentheses, behind the first of them. -/
def readOutput (inner : Inner) (quoted : Bool) : Parse Piece := do
  let command ← Parse.apart (inner .tail)
  let closing := (← get).held.getD .ended
  match closing with
  | .mark ")" =>
    modify fun position => { position with held := none }
    return .output quoted command
  | token => Parse.unexpected token (some "\")\"")

/-- The name of a parameter at the begin of a text, and what is behind it. -/
def parameterName? (text : List Char) : Option (List Char × List Char) :=
  match text with
  | c :: rest =>
    if isNameStart c then some (text.takeWhile isNameChar, text.dropWhile isNameChar)
    else if c.isDigit || isSpecialParameter c then some ([c], rest)
    else none
  | [] => none

/-- The name of a parameter in braces; here numbers may have several digits. -/
def bracedName? (text : List Char) : Option (List Char × List Char) :=
  if text.head?.any Char.isDigit then
    some (text.takeWhile Char.isDigit, text.dropWhile Char.isDigit)
  else parameterName? text

/-- The rule behind the name of a parameter, and what is behind the rule. A
character that is no rule stands for an unknown one. -/
def ruleOf (text : List Char) : Rule × List Char :=
  match text with
  | '\x7d' :: _ => (.plain, text)
  | ':' :: '-' :: rest => (.orWord true, rest)
  | '-' :: rest => (.orWord false, rest)
  | ':' :: '=' :: rest => (.orAssign true, rest)
  | '=' :: rest => (.orAssign false, rest)
  | ':' :: '?' :: rest => (.orFail true, rest)
  | '?' :: rest => (.orFail false, rest)
  | ':' :: '+' :: rest => (.ifPresent true, rest)
  | '+' :: rest => (.ifPresent false, rest)
  | '#' :: '#' :: rest => (.dropFront true, rest)
  | '#' :: rest => (.dropFront false, rest)
  | '%' :: '%' :: rest => (.dropBack true, rest)
  | '%' :: rest => (.dropBack false, rest)
  | ':' :: '\x7d' :: rest => (.valueAndWord, rest)
  | ':' :: _ :: rest => (.unknown, rest)
  | _ => (.unknown, text.tail)

/-- Whether a character may be part of what begins a parameter in braces: its name
and the rule. -/
def isHeadChar (c : Char) : Bool :=
  isNameChar c || isSpecialParameter c || [':', '%', '=', '+'].contains c

/-- The name and the rule at the begin of what stands in braces. A character that
is no name stands for an unknown rule. -/
def bracedHead (text : List Char) : List Char × Rule × List Char :=
  let ordinary (text : List Char) : List Char × Rule × List Char :=
    match bracedName? text, text with
    | some (name, rest), _ =>
      let (rule, rest) := ruleOf rest
      (name, rule, rest)
    | none, '\x7d' :: _ => ([], .unknown, text)
    | none, text => ([], .unknown, text.tail)
  match text with
  | '#' :: rest =>
    match bracedName? rest, rest with
    | some (name, '\x7d' :: rest), _ => (name, .length, '\x7d' :: rest)
    | none, c :: '\x7d' :: rest =>
      if c = '\x7d' then ordinary text else ([], .unknown, '\x7d' :: rest)
    | _, _ => ordinary text
  | text => ordinary text

/-- Reads a parameter in braces, behind the first of them. The word of a rule
about patterns is never within the quotes around it. -/
def readBraced (inner : Inner) (quoted : Bool) : Parse Piece := do
  Parse.joinWhile 0 isHeadChar
  let (name, rule, rest) := bracedHead (← get).rest
  Parse.goTo rest
  let context := match rule with
    | .dropFront _ | .dropBack _ => Context.braces false
    | _ => .braces quoted
  return .parameter quoted name rule (← inner (.pieces context))

/-- Reads what a dollar sign begins, behind the sign. -/
def readDollar (inner : Inner) (quoted : Bool) : Parse Piece := do
  Parse.joinWhile 0 isNameChar
  if (← get).rest.head? = some '(' then Parse.joinBehind 1
  match (← get).rest with
  | '(' :: '(' :: rest =>
    Parse.goTo rest
    return .arithmetic quoted (← inner (.pieces .sum))
  | '(' :: rest =>
    Parse.goTo rest
    readOutput inner quoted
  | '\x7b' :: rest =>
    Parse.goTo rest
    readBraced inner quoted
  | text =>
    match parameterName? text with
    | some (name, rest) =>
      Parse.goTo rest
      return .parameter quoted name .plain []
    | none => return .text quoted ['$']

/-- What is wrong if a text ends in a context; it may be that of a document. -/
def Context.openCause? (inDocument : Bool) : Context → Option SyntaxCause
  | bare | document | ending false => none
  | braces false => some .openBrace
  | braces true | quotes | ending true => some (if inDocument then .openBrace else .openQuote)
  | sum => some .openArithmetic

/-- Pieces up to one behind which nothing of a word counts. -/
def cutPieces : List Piece → List Piece
  | [] => []
  | .parameter quoted name .valueAndWord word :: _ => [.parameter quoted name .valueAndWord word]
  | piece :: pieces => piece :: cutPieces pieces

/-- Reads the text between single quotes, behind the first of them. -/
def readSingleQuoted : Parse Piece := do
  let position ← get
  let text := position.rest.takeWhile (· ≠ '\x27')
  let line := position.line + text.count '\n'
  match position.rest.dropWhile (· ≠ '\x27') with
  | _ :: rest =>
    set { position with rest, line }
    return .text true text
  | [] => throw ⟨line, .openQuote⟩

/-- Whether dollar signs and backquotes have a meaning in a context. -/
def Context.expands : Context → Bool
  | ending _ => false
  | _ => true

/-- The context behind a double quote, if such a quote has a meaning. -/
def Context.behindQuote? : Context → Option Context
  | document | sum => none
  | ending _ => some (ending true)
  | _ => some quotes

/-- Whether a character closes a context that it is not part of. -/
def Context.closesBefore (context : Context) (c : Char) : Bool :=
  isSeparator c && (context = .bare || context = .ending false)

/-- Whether a character closes a context as the last part of it. -/
def Context.closesWith (context : Context) (c : Char) : Bool :=
  match context with
  | quotes | ending true => c = '"'
  | braces _ => c = '\x7d'
  | _ => false

/-- Reads the next piece in a context, or the end of them. The depth counts
parentheses. -/
def readPiece (inner : Inner) (context : Context) (pieces : List Piece) (depth : Nat) :
    Parse (Turn (List Piece × Nat) (List Piece)) := do
  let quoted := context.isQuoted
  let position ← get
  let close (pieces : List Piece) : Turn (List Piece × Nat) (List Piece) :=
    .finish (joinPieces (cutPieces pieces.reverse))
  let finish (rest : List Char) : Parse (Turn (List Piece × Nat) (List Piece)) := do
    Parse.goTo rest
    return close pieces
  let add (piece : Piece) : Turn (List Piece × Nat) (List Piece) := .again (piece :: pieces, depth)
  let openCause? := context.openCause? position.ending.isSome
  match position.rest with
  | [] =>
    match openCause? with
    | some cause => Parse.fail cause
    | none => finish []
  | '\\' :: '\n' :: rest =>
    Parse.goToNextLine rest
    return .again (pieces, depth)
  | '\\' :: c :: rest =>
    if quoted && !isEscapable context c then
      Parse.goTo (c :: rest)
      return add (.text true ['\\'])
    else
      Parse.goTo rest
      return add (.text true [c])
  | ['\\'] =>
    Parse.goTo []
    return add (.text true ['\\'])
  | '\n' :: rest =>
    if context.closesBefore '\n' then return close pieces
    Parse.goToNextLine rest
    if ← Parse.endsDocument then
      match openCause? with
      | some cause => Parse.fail cause
      | none => return close (.text quoted ['\n'] :: pieces)
    return add (.text quoted ['\n'])
  | c :: rest =>
    if c = '$' && context.expands then
      Parse.goTo rest
      return add (← readDollar inner quoted)
    else if c = '\x60' && context.expands then
      Parse.goTo rest
      return add (← readBackquoted inner quoted)
    else if c = '\x27' && !quoted then
      Parse.goTo rest
      return add (← readSingleQuoted)
    else if context.closesWith c then finish rest
    else match if c = '"' then context.behindQuote? else none with
      | some context =>
        Parse.goTo rest
        let inside ← inner (.pieces context)
        let inside := if inside.isEmpty then [.text true []] else inside
        return .again (inside.reverse ++ pieces, depth)
      | none =>
        if c = ')' && context = .sum && depth = 0 then Parse.joinBehind 1
        if c = ')' && context = .sum && depth = 0 && (← get).rest.tail.head? = some ')' then
          finish (← get).rest.tail.tail
        else if context.closesBefore c then finish (c :: rest)
        else
          Parse.goTo (← get).rest.tail
          let depth :=
            if context ≠ .sum then depth
            else if c = '(' then depth + 1
            else if c = ')' then depth - 1
            else depth
          return .again (.text quoted [c] :: pieces, depth)

/-- Reads the pieces of a word in a context, and what closes them. -/
def readPieces (inner : Inner) (context : Context) : Parse (List Piece) :=
  iterate ([], 0) fun (pieces, depth) => readPiece inner context pieces depth

end TmuxLayout.Shell
