import TmuxLayout.Layout.Basic
import TmuxLayout.Layout.Fault

/-!
# Validity of layouts (SPEC_FULL.md §4.1)

A layout is valid when every ratio has one weight for each child, and at most
one node has focus. The first rule is checked before the second, from the root
down and from left to right.

- `rootPath`, `childPath`: paths of containers in faults (`child_path`, §4.2).
- `checkRatio`: the first rule for one container (`check_ratio_length`).
- `Node.checkRatios`: the first rule for a tree (`validate_ratios`).
- `Node.focusPaths`: the paths of the focused nodes, as child numbers (`collect_focused`).
- `checkFocus`: the second rule (`validate_focus`).
- `Layout.validate`: both (`validate_layout`).
-/

namespace TmuxLayout

/-! ## Paths -/

/-- The path of the container at the root. -/
def rootPath : String := "layout"

/-- The path of a child of the container at a path. -/
def childPath (parent : String) (index : Nat) : String :=
  parent ++ ".panes[" ++ toString index ++ "]"

/-- Child numbers, from the root down, joined by dots. -/
def dotted (indices : List Nat) : String :=
  ".".intercalate (indices.map toString)

/-! ## Ratios -/

/-- Fails when a container has a ratio that does not fit its children. -/
def checkRatio (frame : Frame) (childCount : Nat) (path : String) : Except Layout.Fault Unit :=
  match frame.ratio with
  | some ratio =>
    if ratio.length ≠ childCount then
      .error (.ratioLengthMismatch path ratio.length childCount)
    else .ok ()
  | none => .ok ()

namespace Node

mutual

/-- Fails at the first container whose ratio does not fit its children. -/
def checkRatios (path : String) : Node → Except Layout.Fault Unit
  | pane _ => .ok ()
  | container frame children => do
    checkRatio frame children.length path
    checkChildRatios path 0 children

/-- Fails at the first container among children, counted from `index`, whose
ratio does not fit. -/
def checkChildRatios (path : String) (index : Nat) : List Node → Except Layout.Fault Unit
  | [] => .ok ()
  | node :: nodes => do
    node.checkRatios (childPath path index)
    checkChildRatios path (index + 1) nodes

end

/-! ## Focus -/

mutual

/-- The paths of the focused nodes below a node, as child numbers behind those
in `path`, a node before its children. -/
def focusPaths (path : List Nat) : Node → List (List Nat)
  | pane _ => []
  | container _ children => childFocusPaths path 0 children

/-- The paths of the focused nodes among children, counted from `index`, and
below them. -/
def childFocusPaths (path : List Nat) (index : Nat) : List Node → List (List Nat)
  | [] => []
  | node :: nodes =>
    (if node.isFocused then [path ++ [index]] else []) ++
      node.focusPaths (path ++ [index]) ++ childFocusPaths path (index + 1) nodes

end

end Node

/-- What faults call the focused nodes of a tree. -/
def focusNames (root : Node) : List String :=
  (if root.isFocused then ["root"] else []) ++ (root.focusPaths []).map dotted

/-- Fails when more than one node has focus. -/
def checkFocus (root : Node) : Except Layout.Fault Unit :=
  let names := focusNames root
  if names.length > 1 then .error (.multipleFocus names) else .ok ()

/-- Fails when a layout is not valid. -/
def Layout.validate (layout : Layout) : Except Layout.Fault Unit := do
  layout.root.checkRatios rootPath
  checkFocus layout.root

end TmuxLayout
