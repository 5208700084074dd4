import TmuxLayout.Shell.Session

/-!
# Names and values in messages

A message shows what was given to a program in one of three ways.

- `Tool.quotedValue`: a value in quotes, with backslashes.
- `Tool.quotedName`: a name in quotes, as a word that a shell reads back.
- `Tool.clearName`: a name as it is, or in quotes where a shell would not read it as
  it is.
-/

namespace TmuxLayout.Shell.Tool

/-- A text between marks. -/
def between (mark : Char) (text : List Char) : List Char :=
  [mark] ++ text ++ [mark]

/-- A text in quotes. -/
def quoted (text : List Char) : List Char :=
  between '\x27' text

/-- Whether a character is shown as it is. -/
def isPrintable (c : Char) : Bool :=
  ' ' ≤ c && c ≤ '~'

/-- A character that is not shown as it is, behind a backslash: by a letter or by
its number in three octal digits. -/
def escaped (c : Char) : List Char :=
  match c with
  | '\x07' => ['\\', 'a']
  | '\x08' => ['\\', 'b']
  | '\t' => ['\\', 't']
  | '\n' => ['\\', 'n']
  | '\x0b' => ['\\', 'v']
  | '\x0c' => ['\\', 'f']
  | '\x0d' => ['\\', 'r']
  | c =>
    let digit (place : Nat) : Char := Nat.digitChar (c.toNat / place % 8)
    ['\\', digit 64, digit 8, digit 1]

/-- A value in quotes; backslashes stand before quotes and backslashes in it. -/
def quotedValue (text : List Char) : List Char :=
  quoted (text.flatMap fun c =>
    if c = '\x27' || c = '\\' then ['\\', c] else if isPrintable c then [c] else escaped c)

/-- What stands between quotes for a text. A quote ends them, stands behind a
backslash and begins them anew; characters that are not shown have quotes of their
own, which are open at the start if `isEscaping` says so. -/
def insideQuotes (isEscaping : Bool) : List Char → List Char
  | [] => []
  | c :: rest =>
    if c = '\x27' then ['\x27', '\\', '\x27', '\x27'] ++ insideQuotes false rest
    else if isPrintable c then
      (if isEscaping then ['\x27', '\x27'] else []) ++ c :: insideQuotes false rest
    else
      (if isEscaping then [] else ['\x27', '$', '\x27']) ++ escaped c ++ insideQuotes true rest

/-- Whether double quotes may stand around a character without a change to it. -/
def isPlainInQuotes (c : Char) : Bool :=
  c.isAlphanum || " '%+,-./:]_@".toList.contains c

/-- A name in quotes; those are double if it holds single ones and nothing that is
special in double ones. -/
def quotedName (name : List Char) : List Char :=
  let isPlain (place : Char × Nat) : Bool :=
    isPlainInQuotes place.1 || (place.2 = 0 && (place.1 = '#' || place.1 = '~'))
  if name.contains '\x27' && name.zipIdx.all isPlain then between '"' name
  else quoted (insideQuotes false name)

/-- Whether a name does not stand for itself in a message without quotes. -/
def needsQuotes (name : List Char) : Bool :=
  name.isEmpty || name = ['\x7b'] || name = ['\x7d'] ||
    name.head? = some '#' || name.head? = some '~' ||
    name.any fun c => !isPrintable c || " !\"$&'()*:;<=>?[\\^\x60|".toList.contains c

/-- A name as it is, or in quotes if it needs them. -/
def clearName (name : List Char) : List Char :=
  if needsQuotes name then quotedName name else name

end TmuxLayout.Shell.Tool
