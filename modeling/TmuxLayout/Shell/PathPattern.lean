import TmuxLayout.Shell.Pattern
import TmuxLayout.Shell.Session
import TmuxLayout.Text.Order

/-!
# Patterns of paths

A word with a pattern in it stands for the paths that fit. A pattern fits no slash,
and a dot at the begin of a name only if it begins with one itself.

- `PathPattern.isPattern`: whether there is more than plain characters in a part.
- `PathPattern.paths`: the paths that fit.
- `PathPattern.expand`: what a field stands for.
-/

namespace TmuxLayout.Shell.PathPattern

variable {σ : Type}

/-- Whether there is more than plain characters in a part of a path. -/
def isPattern (part : List Glyph) : Bool :=
  (patternItems part.length part).any fun
    | .char _ => false
    | _ => true

/-- A word in the parts between its slashes. -/
def parts : List Glyph → List (List Glyph)
  | [] => [[]]
  | glyph :: rest =>
    match parts rest with
    | part :: others => if glyph.char = '/' then [] :: part :: others else (glyph :: part) :: others
    | [] => [[glyph]]

/-- The names in a directory. -/
def namesIn (session : Session σ) (path : List Char) : List (List Char) :=
  match session.tree.find session.directory (if path.isEmpty then "." else Run.shown path) with
  | .ok (.directory entries) => ['.'] :: ['.', '.'] :: entries.map fun (name, _) => ofText name
  | _ => []

/-- The names in a directory that a part of a path fits. -/
def namesThatFit (session : Session σ) (path : List Char) (part : List Glyph) : List (List Char) :=
  let isHidden (name : List Char) : Bool := name.head? = some '.'
  let items := patternItems part.length part
  (namesIn session path).filter fun name =>
    (!isHidden name || isHidden (part.map Glyph.char)) && matchesItems items name

/-- Whether something is at a path. -/
def isThere (session : Session σ) (path : List Char) : Bool :=
  (session.tree.find session.directory (Run.shown path)).toOption.isSome

/-- The paths that fit parts behind a path that ends in a slash or is empty. -/
def pathsFrom (session : Session σ) (path : List Char) : List (List Glyph) → List (List Char)
  | [] => []
  | [part] =>
    if isPattern part then (namesThatFit session path part).map (path ++ ·)
    else
      let path := path ++ part.map Glyph.char
      if isThere session path then [path] else []
  | part :: others =>
    if isPattern part then
      (namesThatFit session path part).flatMap fun name =>
        pathsFrom session (path ++ name ++ ['/']) others
    else pathsFrom session (path ++ part.map Glyph.char ++ ['/']) others

/-- The paths that fit a word, in order. -/
def paths (session : Session σ) (word : List Glyph) : List (List Char) :=
  (pathsFrom session [] (parts word)).mergeSort Text.isAtMost

/-- What a field stands for: the paths that fit it, or else its text. -/
def expand (session : Session σ) (field : List Glyph) : List (List Char) :=
  let found := if (parts field).any isPattern then paths session field else []
  if found.isEmpty then [field.map Glyph.char] else found

end TmuxLayout.Shell.PathPattern
