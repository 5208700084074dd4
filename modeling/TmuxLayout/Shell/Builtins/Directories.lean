import TmuxLayout.Shell.Builtins.Basic

/-!
# Directories and rights

- `Builtin.currentDirectory`, `Builtin.changeDirectory`: the current directory.
- `Rights.change`: rights changed by a text such as `u=rw,go-w`.
- `Builtin.rights`: the rights that new files do not get.
-/

namespace TmuxLayout.Shell

variable {σ : Type}

/-! ## Directories -/

namespace Builtin

/-- The path of the current directory. -/
def pathOf (session : Session σ) : List Char :=
  ofText ((if session.isDoubled then "//" else "/") ++ "/".intercalate session.directory)

/-- Whether options ask for the path of a directory as it would be without any
history. -/
def asksForPlainPath (options : List (Char × List Char)) : Bool :=
  options.getLast?.any fun (letter, _) => letter = 'P'

/-- Writes the current directory. -/
def currentDirectory : Builtin σ := fun arguments => do
  let (options, _) ← options "LP" "" arguments
  let session ← get
  let isDoubled := session.isDoubled && !asksForPlainPath options
  put (pathOf { session with isDoubled } ++ ['\n'])

/-- The directory that a path leads to from the current one. Steps upward are taken
in the text of the path. -/
def directoryAt (session : Session σ) (path : List Char) : List String :=
  FileTree.simplify [] (FileTree.absolute session.directory (Run.shown path))

/-- Whether a directory is there. -/
def isDirectory (session : Session σ) (directory : List String) : Bool :=
  session.tree.follow [] directory matches .ok (.directory _)

/-- Whether a path begins at the root, at the current directory or at the one above
it, so that it is looked for nowhere else. -/
def isFixed (path : List Char) : Bool :=
  match FilePath.splitAt '/' path with
  | first :: _ :: _ => first = [] || first = ['.'] || first = ['.', '.']
  | [first] => first = ['.'] || first = ['.', '.']
  | [] => false

/-- Where a path is looked for: in the directories of `$CDPATH`, and in the current
one. The place is shown if it was found by a directory with a name. -/
def directoryCandidates (path : List Char) : Run σ (List (List Char × Bool)) := do
  match ← Run.value? (ofText "CDPATH") with
  | some directories =>
    if isFixed path then return [(path, false)]
    let candidates := (FilePath.splitAt ':' directories).map fun directory =>
      if directory.isEmpty then (path, false) else (directory ++ ['/'] ++ path, true)
    return candidates ++ [(path, false)]
  | none => return [(path, false)]

/-- Whether a path begins with two slashes and no more; one that does not begin at
the root follows the current directory. -/
def isDoubledBy (session : Session σ) (path : List Char) : Bool :=
  match path with
  | '/' :: '/' :: '/' :: _ => false
  | '/' :: '/' :: _ => true
  | '/' :: _ => false
  | _ => session.isDoubled

/-- Changes the current directory; a hyphen stands for the last one. -/
def changeDirectory : Builtin σ := fun arguments => do
  let (options, arguments) ← options "LP" "" arguments
  let isLast := arguments.head? = some ['-']
  let target ← match arguments with
    | path :: _ =>
      if isLast then pure ((← Run.value? (ofText "OLDPWD")).getD []) else pure path
    | [] => pure ((← Run.value? (ofText "HOME")).getD [])
  let session ← get
  let candidates ← directoryCandidates (if target.isEmpty then ['.'] else target)
  match candidates.find? fun (path, _) => isDirectory session (directoryAt session path) with
  | some (path, isFound) =>
    let isDoubled := isDoubledBy session path && !asksForPlainPath options
    let after := { session with directory := directoryAt session path, isDoubled }
    set after
    let assign (name : String) (value : List Char) : Run σ Unit := do
      Run.assign (ofText name) value
      Run.putVariable (ofText name) ⟨some value, true, false⟩
    assign "OLDPWD" (pathOf session)
    assign "PWD" (pathOf after)
    if isLast || isFound then put (pathOf after ++ ['\n']) else return 0
  | none => Run.fail (ofText "can't cd to " ++ target)

end Builtin

/-! ## Rights -/

namespace Rights

/-- The classes of users: the owner, the group, and others. -/
def classes : List (Char × Nat) :=
  [('u', 0o100), ('g', 0o010), ('o', 0o001)]

/-- The rights of one class. -/
def kinds : List (Char × Nat) :=
  [('r', 4), ('w', 2), ('x', 1)]

/-- All rights of all classes. -/
def all : Nat := 0o777

/-- Rights without some of them. -/
def without (rights others : Nat) : Nat :=
  rights &&& (all ^^^ others)

/-- What a letter stands for: a right, or those that a class has. -/
def ofLetter? (rights : Nat) (letter : Char) : Option Nat :=
  match letter with
  | 'u' => some (rights >>> 6)
  | 'g' => some (rights >>> 3)
  | 'o' => some rights
  | 'X' => some (if rights &&& 0o111 ≠ 0 then 1 else 0)
  | 's' => some 0
  | letter => kinds.lookup letter

/-- The classes that letters name. -/
def classesOf (letters : List Char) : Nat :=
  letters.foldl (fun places letter =>
    places ||| if letter = 'a' then 0o111 else (classes.lookup letter).getD 0) 0

/-- Rights changed by a text: letters for classes, an operator and letters for
rights, where more operators and, behind a comma, more classes may follow. The
letters stand for `given`; the steps are bounded. -/
def changeUpTo (given : Nat) : Nat → (places rights : Nat) → List Char → Option Nat
  | 0, _, _, _ => none
  | _ + 1, _, rights, [] => some rights
  | steps + 1, places, rights, text =>
    let isClass (c : Char) : Bool := ['a', 'u', 'g', 'o'].contains c
    let places := places ||| classesOf (text.takeWhile isClass)
    let places := if places = 0 then 0o111 else places
    let isKind (c : Char) : Bool := (ofLetter? given c).isSome
    match text.dropWhile isClass with
    | [] => some rights
    | operator :: behind =>
      let letters := (behind.takeWhile isKind).filterMap (ofLetter? given)
      let changed := ((letters.foldl (· ||| ·) 0) &&& 7) * places
      let rights? := match operator with
        | '+' => some (rights ||| changed)
        | '-' => some (without rights changed)
        | '=' => some (without rights (places * 7) ||| changed)
        | _ => none
      match rights?, behind.dropWhile isKind with
      | some rights, ',' :: rest => changeUpTo given steps 0 rights rest
      | some rights, rest =>
        if rest.head?.all fun c => c = '+' || c = '-' || c = '=' then
          changeUpTo given steps places rights rest
        else none
      | none, _ => none

/-- Rights changed by a text. -/
def change (rights : Nat) (text : List Char) : Option Nat :=
  changeUpTo rights (text.length + 1) 0 rights text

/-- Rights in letters. -/
def shown (rights : Nat) : List Char :=
  [','].intercalate (classes.map fun (name, place) =>
    name :: '=' :: kinds.filterMap fun (letter, kind) =>
      if rights &&& (kind * place) ≠ 0 then some letter else none)

/-- Rights in four octal digits. -/
def octal (rights : Nat) : List Char :=
  let digits := Nat.toDigits 8 rights
  List.replicate (4 - digits.length) '0' ++ digits

/-- The rights that octal digits write. -/
def ofOctal? (text : List Char) : Option Nat :=
  if text.all fun c => '0' ≤ c && c ≤ '7' then
    some (text.foldl (fun rights c => (rights * 8 + (c.toNat - '0'.toNat)) &&& all) 0)
  else none

end Rights

/-- Shows or sets the rights that new files do not get. -/
def Builtin.rights : Builtin σ := fun arguments => do
  let (options, arguments) ← options "S" "" arguments
  let mask := (← get).mask
  match arguments with
  | [] =>
    if options.isEmpty then put (Rights.octal mask ++ ['\n'])
    else put (Rights.shown (Rights.without Rights.all mask) ++ ['\n'])
  | text :: _ =>
    let isNumber := text.head?.any Char.isDigit
    let new? :=
      if isNumber then Rights.ofOctal? text
      else (Rights.change (Rights.without Rights.all mask) text).map (Rights.without Rights.all)
    match new? with
    | some mask =>
      modify fun session => { session with mask }
      return 0
    | none => Run.fail (ofText (if isNumber then "Illegal number: " else "Illegal mode: ") ++ text)

end TmuxLayout.Shell
