/-!
# File paths

A path is a text whose components stand between slashes. Empty components and
single dots count for nothing.

- `FilePath.components`: the components that count.
- `FilePath.fileName?`: the last component, unless it leads upward.
- `FilePath.extension`: what stands behind the last dot of the file name, in
  lower case.
- `FilePath.join`: a path within a directory.
-/

namespace TmuxLayout.FilePath

/-- Splits a text at a character. -/
def splitAt (mark : Char) : List Char → List (List Char)
  | [] => [[]]
  | c :: rest =>
    if c = mark then [] :: splitAt mark rest
    else match splitAt mark rest with
      | part :: parts => (c :: part) :: parts
      | [] => [[c]]

/-- The components of a path that count. -/
def components (path : String) : List String :=
  ((splitAt '/' path.toList).map String.ofList).filter fun part => part ≠ "" ∧ part ≠ "."

/-- Whether a path begins at the root. -/
def isAbsolute (path : String) : Bool :=
  path.toList.head? = some '/'

/-- Whether a path can only be that of a directory. -/
def endsInDirectory (path : String) : Bool :=
  match (splitAt '/' path.toList).getLast? with
  | some part => part = [] || part = ['.'] || part = ['.', '.']
  | none => false

/-- The last component, unless it leads upward. -/
def fileName? (path : String) : Option String :=
  (components path).getLast?.filter (· ≠ "..")

/-- A letter of the English alphabet in lower case; other characters stay. -/
def lower (c : Char) : Char :=
  if 'A' ≤ c ∧ c ≤ 'Z' then Char.ofNat (c.toNat + 32) else c

/-- The extension of a file name: what stands behind its last dot, unless the
name begins with that dot. -/
def extensionOf (name : List Char) : List Char :=
  let behind := (name.reverse.takeWhile (· ≠ '.')).reverse
  let before := name.length - behind.length
  if before ≤ 1 then [] else behind

/-- The extension of a path in lower case, empty if there is none. -/
def extension (path : String) : String :=
  match fileName? path with
  | some name => String.ofList ((extensionOf name.toList).map lower)
  | none => ""

/-- A relative path within a directory. -/
def join (directory path : String) : String :=
  if directory.isEmpty || directory.toList.getLast? = some '/' then directory ++ path
  else directory ++ "/" ++ path

end TmuxLayout.FilePath
