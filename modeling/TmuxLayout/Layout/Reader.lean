import TmuxLayout.Document
import TmuxLayout.Layout.Validity

/-!
# Reading layouts from documents (SPEC_FULL.md §3, §4.1, §11)

A mapping is a container when it has the key `type`, whatever its value, and a
pane otherwise. Faults are found from the root down and from left to right; in a
container the order is type, panes, ratio, children.

- `readText`, `readFocus`, `readRatio`: the fields (`optional_string`, `is_focused`,
  `ratio_weights`).
- `readPane`, `readFrame`: the fields of one node.
- `nodeOf`, `childrenIn`: a node from a document, with all that is below it
  (`node_from_value`, `container_from_value`).
- `Layout.ofDocument`: a layout from a document (`parse_layout`).
-/

namespace TmuxLayout

open Document (lookup?)

/-- The entries of a mapping. -/
abbrev Entries := List (Document × Document)

/-! ## Fields -/

/-- The fault of a field with a value of the wrong kind. -/
def wrongKind (path field expected : String) (value : Document) : Layout.Fault :=
  .invalidField path field ("expected " ++ expected ++ ", found " ++ value.kind)

/-- A text that may be missing or null. A tagged text is none. -/
def readText (entries : Entries) (field path : String) : Except Layout.Fault (Option String) :=
  match lookup? field entries with
  | none | some .null => .ok none
  | some (.string text) => .ok (some text)
  | some other => .error (wrongKind path field "a string" other)

/-- Whether a node has focus: only the boolean itself counts. -/
def readFocus (entries : Entries) : Bool :=
  match lookup? "focus" entries with
  | some (.bool true) => true
  | _ => false

/-- The weights in a ratio. -/
def readWeights (path : String) : List Document → Except Layout.Fault (List Float)
  | [] => .ok []
  | item :: items =>
    match item.asNumber? with
    | some weight => (readWeights path items).map (weight :: ·)
    | none => .error (wrongKind path "ratio" "a number" item)

/-- A ratio that may be missing or null, for a number of children. -/
def readRatio (entries : Entries) (childCount : Nat) (path : String) :
    Except Layout.Fault (Option (List Float)) :=
  match lookup? "ratio" entries with
  | none | some .null => .ok none
  | some (.sequence items) =>
    if items.length ≠ childCount then
      .error (.ratioLengthMismatch path items.length childCount)
    else (readWeights path items).map some
  | some other => .error (wrongKind path "ratio" "an array of numbers" other)

/-- What a fault calls the type that was found (`describe`). -/
def typeFound : Option Document → String
  | none => "no type"
  | some (.string text) => "'" ++ text ++ "'"
  | some other => other.kind

/-- The direction that the type of a container names. -/
def readDirection (entries : Entries) (path : String) : Except Layout.Fault Direction :=
  let type := lookup? "type" entries
  match (type.bind Document.asString?).bind Direction.ofName? with
  | some direction => .ok direction
  | none => .error (.invalidContainerType path (typeFound type))

/-- The children of a container, as documents. -/
def panesIn? (entries : Entries) : Option (List Document) :=
  (lookup? "panes" entries).bind Document.asSequence?

/-! ## Nodes -/

/-- What a container has besides its children, with the checks that come before
them. -/
def readFrame (entries : Entries) (path : String) : Except Layout.Fault Frame := do
  let direction ← readDirection entries path
  match panesIn? entries with
  | none => throw (.missingPanes path)
  | some items =>
    let ratio ← readRatio entries items.length path
    return ⟨direction, ratio, readFocus entries⟩

/-- A pane. -/
def readPane (entries : Entries) (path : String) : Except Layout.Fault Pane := do
  let name ← readText entries "name" path
  let command ← readText entries "command" path
  return ⟨name, command, readFocus entries⟩

/-- Whether a mapping is a container. -/
def isContainer (entries : Entries) : Bool :=
  (lookup? "type" entries).isSome

mutual

/-- A node, with all that is below it. A tag around the mapping does not show,
except in the fault of a value that is none. -/
def nodeOf : Document → String → Except Layout.Fault Node
  | .mapping entries, path =>
    if isContainer entries then do
      let frame ← readFrame entries path
      let children ← childrenIn entries path
      return .container frame children
    else do
      let pane ← readPane entries path
      return .pane pane
  | .tagged tag value, path =>
    if value.asMapping?.isSome then nodeOf value path
    else .error (wrongKind path "panes" "a pane or container mapping" (.tagged tag value))
  | value, path => .error (wrongKind path "panes" "a pane or container mapping" value)

/-- The children of a container: the nodes of the first entry for them. -/
def childrenIn : Entries → String → Except Layout.Fault (List Node)
  | [], path => .error (.missingPanes path)
  | (key, value) :: entries, path =>
    match key with
    | .string "panes" => childrenOf value path
    | _ => childrenIn entries path

/-- The nodes of a sequence, seen through tags. -/
def childrenOf : Document → String → Except Layout.Fault (List Node)
  | .sequence items, path => nodesOf items path 0
  | .tagged _ value, path => childrenOf value path
  | _, path => .error (.missingPanes path)

/-- The nodes of a row of children, counted from `index`. -/
def nodesOf : List Document → String → Nat → Except Layout.Fault (List Node)
  | [], _, _ => .ok []
  | item :: items, path, index => do
    let node ← nodeOf item (childPath path index)
    let nodes ← nodesOf items path (index + 1)
    return node :: nodes

end

/-! ## Layouts -/

/-- The value of the layout, if it counts as given. -/
def layoutValue? (document : Document) : Option Document :=
  (document.get? "layout").filter (·.isTruthy)

/-- A layout from a document. The rule on focus comes last. -/
def Layout.ofDocument (document : Document) : Except Layout.Fault Layout := do
  match layoutValue? document with
  | none => throw .missingLayout
  | some value =>
    let name ← readText (document.asMapping?.getD []) "name" "document"
    let entries := value.asMapping?.getD []
    let frame ← readFrame entries rootPath
    let children ← childrenIn entries rootPath
    let layout : Layout := ⟨name, frame, children⟩
    checkFocus layout.root
    return layout

end TmuxLayout
