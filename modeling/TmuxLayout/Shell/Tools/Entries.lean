import TmuxLayout.Shell.Tools.Basic
import TmuxLayout.Text.Order

/-!
# Programs about files and directories

- `Tool.ls`: lists entries of directories.
- `Tool.mkdir`, `Tool.touch`, `Tool.rm`, `Tool.rmdir`, `Tool.cp`, `Tool.mv`,
  `Tool.chmod`: change what is there.
- `Tool.basename`, `Tool.dirname`, `Tool.realpath`, `Tool.readlink`, `Tool.pwd`: about
  paths alone.
-/

namespace TmuxLayout.Shell.Tool

/-! ## Listing -/

/-- The names in a directory that are listed, in order. -/
def listedNames (chosen : Chosen) (entries : List (String × FileTree)) : List (List Char) :=
  let names := entries.map fun (name, _) => ofText name
  let names := if chosen.has 'a' then ['.'] :: ['.', '.'] :: names else names
  let isShown (name : List Char) : Bool :=
    chosen.has 'a' || chosen.has 'A' || name.head? ≠ some '.'
  let sorted := (names.filter isShown).mergeSort Text.isAtMost
  if chosen.has 'r' then sorted.reverse else sorted

/-- A name with a mark for directories, if that is asked for. -/
def markedName (chosen : Chosen) (entries : List (String × FileTree)) (name : List Char) : List Char :=
  let isDirectory := name = ['.'] || name = ['.', '.'] ||
    entries.lookup (Run.shown name) matches some (.directory _)
  if (chosen.has 'p' || chosen.has 'F') && isDirectory then name ++ ['/'] else name

/-- Lists entries of directories. -/
def ls (invocation : Invocation) : Finish :=
  let letters : Letters := ⟨"aAdFprst1CU", "", [("all", 'a'), ("almost-all", 'A'), ("directory", 'd'),
    ("classify", 'F'), ("reverse", 'r')]⟩
  match readOptions letters false invocation.arguments with
  | .error fault => misuse 2 "ls" fault.message
  | .ok chosen =>
    let operands := if chosen.operands.isEmpty then [['.']] else chosen.operands
    let found := (operands.mergeSort Text.isAtMost).map fun path => (path, entry invocation path)
    let faults := operands.flatMap fun path =>
      match entry invocation path with
      | .ok _ => []
      | .error reason =>
        message "ls" (ofText "cannot access " ++ quotedName path ++ ofText (": " ++ reason))
    let files := found.filterMap fun (path, entry) =>
      match entry with
      | .ok (.file _) => some path
      | .ok (.directory _) => if chosen.has 'd' then some path else none
      | .error _ => none
    let directories := found.filterMap fun (path, entry) =>
      match entry with
      | .ok (.directory entries) => if chosen.has 'd' then none else some (path, entries)
      | _ => none
    let hasHeads := operands.length > 1
    let shown := directories.map fun (path, entries) =>
      (if hasHeads then path ++ ofText ":\n" else []) ++
        joinLines ((listedNames chosen entries).map (markedName chosen entries))
    let rows := (if files.isEmpty then [] else [joinLines files]) ++ shown
    aside (finish (if faults.isEmpty then 0 else 2) (['\n'].intercalate rows) faults)

/-! ## Changes -/

/-- A tree after some changes, with messages about those that were not possible. -/
structure Changed where
  tree : FileTree
  faults : List Char

/-- What a program leaves that has changed files. -/
def Changed.finish (changed : Changed) : Finish :=
  { aside (Tool.finish (if changed.faults.isEmpty then 0 else 1) [] changed.faults) with
    changes := some changed.tree }

/-- Changes a tree for each operand; a change may fail with a message. -/
def changeEach (invocation : Invocation) (operands : List (List Char))
    (change : FileTree → List Char → Except (List Char) FileTree) : Finish :=
  (operands.foldl (fun (changed : Changed) path =>
    match change changed.tree path with
    | .ok tree => { changed with tree }
    | .error fault => { changed with faults := changed.faults ++ fault })
    ⟨invocation.tree, []⟩).finish

/-- Makes directories. -/
def mkdir (invocation : Invocation) : Finish :=
  withOptions "mkdir" ⟨"pv", "m", [("parents", 'p'), ("mode", 'm'), ("verbose", 'v')]⟩ invocation
    fun chosen =>
      if chosen.operands.isEmpty then misuse 1 "mkdir" (ofText "missing operand")
      else changeEach invocation chosen.operands fun tree path =>
        let fault (reason : String) : Except (List Char) FileTree :=
          .error (message "mkdir"
            (ofText "cannot create directory " ++ quotedName path ++ ofText (": " ++ reason)))
        match entryIn invocation tree path with
        | .ok (.directory _) => if chosen.has 'p' then .ok tree else fault "File exists"
        | .ok (.file _) => fault "File exists"
        | .error reason =>
          match parentFault? invocation tree path with
          | some cause =>
            if chosen.has 'p' && reason = .notFound then
              .ok (tree.makeDirectory invocation.directory (Run.shown path))
            else fault cause
          | none => .ok (tree.makeDirectory invocation.directory (Run.shown path))

/-- Makes empty files where there are none. -/
def touch (invocation : Invocation) : Finish :=
  withOptions "touch" ⟨"acm", "drt", []⟩ invocation fun chosen =>
    if chosen.operands.isEmpty then misuse 1 "touch" (ofText "missing file operand")
    else changeEach invocation chosen.operands fun tree path =>
      match entryIn invocation tree path, parentFault? invocation tree path with
      | .ok _, _ => .ok tree
      | .error _, some reason =>
        .error (message "touch" (ofText "cannot touch " ++ quotedName path ++ ofText (": " ++ reason)))
      | .error _, none =>
        .ok (if chosen.has 'c' then tree else tree.write invocation.directory (Run.shown path) [])

/-- Removes files, and directories if asked to. -/
def rm (invocation : Invocation) : Finish :=
  withOptions "rm" ⟨"fiIrRdv", "", [("force", 'f'), ("recursive", 'r'), ("dir", 'd')]⟩ invocation
    fun chosen =>
      let isForced := chosen.has 'f'
      if chosen.operands.isEmpty && !isForced then misuse 1 "rm" (ofText "missing operand")
      else changeEach invocation chosen.operands fun tree path =>
        let fault (reason : String) : Except (List Char) FileTree :=
          .error (message "rm" (ofText "cannot remove " ++ quotedName path ++ ofText (": " ++ reason)))
        let removed := tree.remove invocation.directory (Run.shown path)
        match entryIn invocation tree path with
        | .ok (.file _) => .ok removed
        | .ok (.directory entries) =>
          if chosen.has 'r' || chosen.has 'R' then .ok removed
          else if chosen.has 'd' then if entries.isEmpty then .ok removed else fault "Directory not empty"
          else fault "Is a directory"
        | .error .notFound => if isForced then .ok tree else fault "No such file or directory"
        | .error (.failed reason) => if isForced then .ok tree else fault reason

/-- Removes empty directories. -/
def rmdir (invocation : Invocation) : Finish :=
  withOptions "rmdir" ⟨"pv", "", []⟩ invocation fun chosen =>
    if chosen.operands.isEmpty then misuse 1 "rmdir" (ofText "missing operand")
    else changeEach invocation chosen.operands fun tree path =>
      let fault (reason : String) : Except (List Char) FileTree :=
        .error (message "rmdir" (ofText "failed to remove " ++ quotedName path ++ ofText (": " ++ reason)))
      match entryIn invocation tree path with
      | .ok (.directory []) => .ok (tree.remove invocation.directory (Run.shown path))
      | .ok (.directory _) => fault "Directory not empty"
      | .ok (.file _) => fault "Not a directory"
      | .error reason => fault (readFaultText reason)

/-- The last component of a path. -/
def lastName (path : List Char) : List Char :=
  ofText (((FilePath.components (Run.shown path)).getLast?).getD "")

/-- Runs a program that takes entries from operands to the last one of them, which
may be a directory. -/
def transfer (name : String) (invocation : Invocation) (chosen : Chosen)
    (move : FileTree → (source target : List Char) → FileTree → Except (List Char) FileTree) :
    Finish :=
  match chosen.operands.getLast?, chosen.operands.dropLast with
  | none, _ => misuse 1 name (ofText "missing file operand")
  | some only, [] => misuse 1 name (ofText "missing destination file operand after " ++ quotedName only)
  | some target, sources =>
    let isDirectory := entryIn invocation invocation.tree target matches .ok (.directory _)
    if sources.length > 1 && !isDirectory then
      fail 1 name (ofText "target " ++ quotedName target ++ ofText
        (if (entryIn invocation invocation.tree target).toOption.isSome then ": Not a directory" else
          ": No such file or directory"))
    else
      changeEach invocation sources fun tree source =>
        let target := if isDirectory then target ++ ['/'] ++ lastName source else target
        match entryIn invocation tree source, parentFault? invocation tree target with
        | .error reason, _ =>
          .error (message name (ofText "cannot stat " ++ quotedName source ++
            ofText (": " ++ readFaultText reason)))
        | .ok _, some reason =>
          .error (message name (ofText (if name = "mv" then "cannot move " else
            "cannot create regular file ") ++
            (if name = "mv" then quotedName source ++ ofText " to " else []) ++ quotedName target ++
            ofText (": " ++ reason)))
        | .ok entry, none => move tree source target entry

/-- Copies files, and directories if asked to. -/
def cp (invocation : Invocation) : Finish :=
  withOptions "cp" ⟨"afiprRv", "", [("recursive", 'r')]⟩ invocation fun chosen =>
    transfer "cp" invocation chosen fun tree source target entry =>
      let isRecursive := chosen.has 'r' || chosen.has 'R' || chosen.has 'a'
      match entry with
      | .directory _ =>
        if isRecursive then .ok (FileTree.put entry (placeOf invocation target) tree)
        else .error (message "cp" (ofText "-r not specified; omitting directory " ++ quotedName source))
      | .file _ =>
        if placeOf invocation source = placeOf invocation target then
          .error (message "cp" (quotedName source ++ ofText " and " ++ quotedName target ++
            ofText " are the same file"))
        else .ok (FileTree.put entry (placeOf invocation target) tree)

/-- Moves files and directories. -/
def mv (invocation : Invocation) : Finish :=
  withOptions "mv" ⟨"finv", "", []⟩ invocation fun chosen =>
    transfer "mv" invocation chosen fun tree source target entry =>
      if placeOf invocation source = placeOf invocation target then
        .error (message "mv" (quotedName source ++ ofText " and " ++ quotedName target ++
          ofText " are the same file"))
      else
        .ok (FileTree.put entry (placeOf invocation target)
          (tree.remove invocation.directory (Run.shown source)))

/-- Would change rights, which files do not have here. -/
def chmod (invocation : Invocation) : Finish :=
  match invocation.arguments with
  | [] => misuse 1 "chmod" (ofText "missing operand")
  | [mode] => misuse 1 "chmod" (ofText "missing operand after " ++ quotedValue mode)
  | _ :: operands => changeEach invocation operands fun tree path =>
    match entryIn invocation tree path with
    | .ok _ => .ok tree
    | .error reason =>
      .error (message "chmod" (ofText "cannot access " ++ quotedName path ++
        ofText (": " ++ readFaultText reason)))

/-! ## Paths -/

/-- A path without slashes at its end; one of slashes alone keeps one. -/
def withoutSlashes (path : List Char) : List Char :=
  let text := (path.reverse.dropWhile (· = '/')).reverse
  if text.isEmpty && !path.isEmpty then ['/'] else text

/-- The last component of a path in its text. -/
def baseName (path : List Char) : List Char :=
  let text := withoutSlashes path
  if text = ['/'] then text else (text.reverse.takeWhile (· ≠ '/')).reverse

/-- The text of a path before its last component. -/
def directoryName (path : List Char) : List Char :=
  let text := withoutSlashes path
  if text = ['/'] then text
  else if text.contains '/' then withoutSlashes ((text.reverse.dropWhile (· ≠ '/')).reverse)
  else ['.']

/-- A name without an ending, if something stands before it. -/
def withoutEnding (ending name : List Char) : List Char :=
  match Text.after? ending.reverse name.reverse with
  | some (c :: rest) => (c :: rest).reverse
  | _ => name

/-- Writes the last components of paths. -/
def basename (invocation : Invocation) : Finish :=
  let letters : Letters := ⟨"az", "s", [("multiple", 'a'), ("suffix", 's'), ("zero", 'z')]⟩
  withOptions "basename" letters invocation fun chosen =>
    let ending := (chosen.value? 's').getD []
    let isMultiple := chosen.has 'a' || chosen.has 's'
    let close := [if chosen.has 'z' then '\x00' else '\n']
    match chosen.operands with
    | [] => misuse 1 "basename" (ofText "missing operand")
    | [path] => aside (write (withoutEnding ending (baseName path) ++ close))
    | path :: second :: others =>
      if isMultiple then
        aside (write ((path :: second :: others).flatMap fun path =>
          withoutEnding ending (baseName path) ++ close))
      else match others with
        | [] => aside (write (withoutEnding second (baseName path) ++ close))
        | extra :: _ => misuse 1 "basename" (ofText "extra operand " ++ quotedValue extra)

/-- Writes paths without their last components. -/
def dirname (invocation : Invocation) : Finish :=
  withOptions "dirname" ⟨"z", "", [("zero", 'z')]⟩ invocation fun chosen =>
    if chosen.operands.isEmpty then misuse 1 "dirname" (ofText "missing operand")
    else aside (write (chosen.operands.flatMap fun path =>
      directoryName path ++ [if chosen.has 'z' then '\x00' else '\n']))

/-- The path from the root that a path leads to, or why there is none. With `-m`
nothing needs to be there, with `-e` all of it, and else all but the last
component. -/
def resolved (chosen : Chosen) (invocation : Invocation) (path : List Char) :
    Except String (List Char) :=
  let place := ofText ("/" ++ "/".intercalate (placeOf invocation path))
  if path.isEmpty then .error "No such file or directory"
  else if path = ofText "/dev/null" then .ok path
  else match chosen.options.reverse.find? fun (letter, _) => letter = 'm' || letter = 'e',
      entryIn invocation invocation.tree path with
    | some ('m', _), _ | _, .ok _ => .ok place
    | some _, .error fault => .error (readFaultText fault)
    | none, .error (.failed reason) => .error reason
    | none, .error .notFound =>
      match parentFault? invocation invocation.tree path with
      | none => .ok place
      | some reason => .error reason

/-- Writes paths from the root. -/
def realpath (invocation : Invocation) : Finish :=
  let letters : Letters := ⟨"emqszLP", "", [("canonicalize-existing", 'e'),
    ("canonicalize-missing", 'm'), ("logical", 'L'), ("physical", 'P'), ("quiet", 'q'),
    ("strip", 's'), ("no-symlinks", 's'), ("zero", 'z')]⟩
  withOptions "realpath" letters invocation fun chosen =>
    if chosen.operands.isEmpty then misuse 1 "realpath" (ofText "missing operand")
    else
      let close := if chosen.has 'z' then '\x00' else '\n'
      aside (chosen.operands.foldl (fun done path =>
        match resolved chosen invocation path with
        | .ok place => { done with output := done.output ++ place ++ [close] }
        | .error reason =>
          let fault := if chosen.has 'q' then [] else fileFault "realpath" path reason
          { done with status := 1, errorOutput := done.errorOutput ++ fault }) (write []))

/-- What a link leads to, or why there is no answer. No entry is a link, so there is
one only if the path itself is asked for. -/
def linkTarget (chosen : Chosen) (invocation : Invocation) (path : List Char) :
    Except String (List Char) :=
  if ['f', 'e', 'm'].any chosen.has then resolved chosen invocation path
  else match entryIn invocation invocation.tree path with
    | .ok _ => .error "Invalid argument"
    | .error fault => .error (readFaultText fault)

/-- Writes what links lead to, or paths from the root. -/
def readlink (invocation : Invocation) : Finish :=
  let letters : Letters := ⟨"efmnqsvz", "", [("canonicalize", 'f'), ("canonicalize-existing", 'e'),
    ("canonicalize-missing", 'm'), ("no-newline", 'n'), ("quiet", 'q'), ("silent", 's'),
    ("verbose", 'v'), ("zero", 'z')]⟩
  withOptions "readlink" letters invocation fun chosen =>
    let isMany := chosen.operands.length > 1
    let close :=
      if chosen.has 'n' && !isMany then [] else [if chosen.has 'z' then '\x00' else '\n']
    let warning := if chosen.has 'n' && isMany then
      message "readlink" (ofText "ignoring --no-newline with multiple arguments") else []
    if chosen.operands.isEmpty then misuse 1 "readlink" (ofText "missing operand")
    else aside (chosen.operands.foldl (fun done path =>
      match linkTarget chosen invocation path with
      | .ok place => { done with output := done.output ++ place ++ close }
      | .error reason =>
        let fault := if chosen.has 'v' then fileFault "readlink" path reason else []
        { done with status := 1, errorOutput := done.errorOutput ++ fault }) (finish 0 [] warning))

/-- Writes the current directory. -/
def pwd (invocation : Invocation) : Finish :=
  aside (write (ofText ("/" ++ "/".intercalate invocation.directory ++ "\n")))

end TmuxLayout.Shell.Tool
