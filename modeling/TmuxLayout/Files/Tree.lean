import TmuxLayout.Files.Path
import TmuxLayout.Text.Utf8

/-!
# File trees

- `FileTree`: a file with its octets, or a directory with its entries.
- `FileTree.find`: what is at a path, or why there is nothing.
- `FileTree.write`, `FileTree.makeDirectory`, `FileTree.remove`: changes, with
  the directories on the way made as needed.
- `Files`: reading of files, whatever keeps them.
-/

namespace TmuxLayout

/-- Why a file cannot be read. -/
inductive ReadFault where
  | notFound
  /-- Any other cause, in words. -/
  | failed (cause : String)
deriving Repr, DecidableEq

/-- Reading of files, whatever keeps them. -/
structure Files where
  read : String → Except ReadFault Octets
  /-- Whether something is at a path. -/
  isPresent : String → Bool

/-- A file or a directory. -/
inductive FileTree where
  | file (octets : Octets)
  | directory (entries : List (String × FileTree))

namespace FileTree

/-- An empty directory. -/
def empty : FileTree := directory []

/-- The longest name of an entry, in octets. -/
def maxNameLength : Nat := 255

/-- The longest path, in octets. -/
def maxPathLength : Nat := 4095

/-- Follows components; `parents` holds the directories above, innermost
first. -/
def follow (parents : List FileTree) (tree : FileTree) : List String → Except ReadFault FileTree
  | [] => .ok tree
  | name :: names =>
    match tree with
    | file _ => .error (.failed "Not a directory")
    | directory entries =>
      if name = ".." then
        match parents with
        | parent :: parents => follow parents parent names
        | [] => follow [] tree names
      else if name.utf8ByteSize > maxNameLength then .error (.failed "File name too long")
      else match entries.lookup name with
        | some next => follow (tree :: parents) next names
        | none => .error .notFound

/-- The components of a path from the root, for a current directory. -/
def absolute (current : List String) (path : String) : List String :=
  if FilePath.isAbsolute path then FilePath.components path
  else current ++ FilePath.components path

/-- What is at a path. -/
def find (root : FileTree) (current : List String) (path : String) : Except ReadFault FileTree := do
  if path.isEmpty then throw .notFound
  if path.toList.contains '\x00' then throw (.failed "a path holds a zero octet")
  if path.utf8ByteSize > maxPathLength then throw (.failed "File name too long")
  let tree ← root.follow [] (absolute current path)
  match tree with
  | file _ =>
    if FilePath.endsInDirectory path then throw (.failed "Not a directory") else return tree
  | directory _ => return tree

/-- Replaces the entry of a directory with a name, or adds it. -/
def withEntry (name : String) (tree : FileTree) : List (String × FileTree) → List (String × FileTree)
  | [] => [(name, tree)]
  | (other, old) :: entries =>
    if other = name then (name, tree) :: entries else (other, old) :: withEntry name tree entries

/-- Puts a tree at the end of components, making directories on the way. -/
def put (tree : FileTree) : List String → FileTree → FileTree
  | [], _ => tree
  | name :: names, root =>
    let entries := match root with
      | directory entries => entries
      | file _ => []
    directory (withEntry name (put tree names ((entries.lookup name).getD empty)) entries)

/-- Takes away what is at the end of components. -/
def take : List String → FileTree → FileTree
  | [], root => root
  | _, file octets => file octets
  | [name], directory entries => directory (entries.filter (·.1 ≠ name))
  | name :: names, directory entries =>
    match entries.lookup name with
    | some tree => directory (withEntry name (take names tree) entries)
    | none => directory entries

/-- Components without those that lead upward, each of which takes the one
before it away; `done` holds those before, last one first. -/
def simplify (done : List String) : List String → List String
  | [] => done.reverse
  | name :: names => if name = ".." then simplify done.tail names else simplify (name :: done) names

/-- The tree with directories where components lead, one for each of them on the
way; the entries of those that are there stay. -/
def makeDirectories (root : FileTree) (names : List String) : FileTree :=
  (List.range (names.length + 1)).foldl (fun root count =>
    let place := simplify [] (names.take count)
    match root.follow [] place with
    | .ok (directory _) => root
    | _ => put empty place root) root

/-- The tree with a file at a path. -/
def write (root : FileTree) (current : List String) (path : String) (octets : Octets) : FileTree :=
  let names := absolute current path
  put (file octets) (simplify [] names) (root.makeDirectories names.dropLast)

/-- The tree with a directory at a path. -/
def makeDirectory (root : FileTree) (current : List String) (path : String) : FileTree :=
  root.makeDirectories (absolute current path)

/-- The tree without what is at a path, if something is there. -/
def remove (root : FileTree) (current : List String) (path : String) : FileTree :=
  match root.find current path with
  | .ok _ => take (simplify [] (absolute current path)) root
  | .error _ => root

/-- Reading of files from a tree. -/
def files (root : FileTree) (current : List String) : Files where
  read path :=
    match root.find current path with
    | .ok (file octets) => .ok octets
    | .ok (directory _) => .error (.failed "Is a directory")
    | .error fault => .error fault
  isPresent path := (root.find current path).toOption.isSome

end FileTree

end TmuxLayout
