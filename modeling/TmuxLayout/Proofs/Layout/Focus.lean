import TmuxLayout.Layout.Validity
import TmuxLayout.Proofs.Layout.Places

/-!
# Focused nodes by place

The rule on focus collects the paths of focused nodes on its way through a tree.
They are the places of these nodes, in order.

- `Node.HasFocus`: a node of either kind has focus.
- `Node.focusPaths_eq`: the paths of the focused nodes of a tree.
- `length_focusNames`: how many focused nodes a fault names.
- `checkFocus_eq_error_iff`: the rule fails when there are two of them.
-/

namespace TmuxLayout

namespace Node

/-- A node has focus: a pane by its own flag, a container by that of its frame. -/
inductive HasFocus : Node → Prop where
  | pane {p : Pane} : p.focus = true → HasFocus (.pane p)
  | container {frame : Frame} {children : List Node} : frame.focus = true →
      HasFocus (.container frame children)

/-- The flag of a node says whether it has focus. -/
theorem isFocused_iff {node : Node} : node.isFocused = true ↔ node.HasFocus := by
  cases node with
  | pane p => exact ⟨.pane, fun | .pane h => h⟩
  | container frame children => exact ⟨.container, fun | .container h => h⟩

/-- The places of the focused ones among nodes, behind the child numbers in
`path`. -/
def focusedPlaces (path : List Nat) (nodes : List (Place × Node)) : List (List Nat) :=
  (nodes.filter (·.2.isFocused)).map (path ++ ·.1)

theorem focusedPlaces_append (path : List Nat) (nodes others : List (Place × Node)) :
    focusedPlaces path (nodes ++ others) =
      focusedPlaces path nodes ++ focusedPlaces path others := by
  rw [focusedPlaces, List.filter_append, List.map_append]
  rfl

theorem focusedPlaces_cons (path : List Nat) (node : Node) (nodes : List (Place × Node)) :
    focusedPlaces path (([], node) :: nodes) =
      (if node.isFocused then [path] else []) ++ focusedPlaces path nodes := by
  rw [focusedPlaces, List.filter_cons]
  dsimp only
  split
  · rw [List.map_cons, List.append_nil]
    rfl
  · rfl

/-- Below a child, all places begin with its number. -/
theorem focusedPlaces_under (path : List Nat) (position : Nat) (nodes : List (Place × Node)) :
    focusedPlaces path (nodes.map fun (place, node) => (position :: place, node)) =
      focusedPlaces (path ++ [position]) nodes := by
  rw [focusedPlaces, List.filter_map, List.map_map, focusedPlaces]
  refine List.map_congr_left fun ⟨place, node⟩ _ => ?_
  show path ++ position :: place = path ++ [position] ++ place
  rw [List.append_assoc]
  rfl

mutual

/-- The paths of the focused nodes of a tree are their places. -/
theorem focusPaths_eq (path : List Nat) (node : Node) :
    (if node.isFocused then [path] else []) ++ node.focusPaths path =
      focusedPlaces path node.placed := by
  cases node with
  | pane p => rw [placed, focusedPlaces_cons, focusPaths, focusedPlaces, List.filter_nil,
      List.map_nil]
  | container frame children =>
    rw [placed, focusedPlaces_cons, focusPaths, childFocusPaths_eq path 0 children]

theorem childFocusPaths_eq (path : List Nat) (position : Nat) (nodes : List Node) :
    childFocusPaths path position nodes = focusedPlaces path (placedFrom position nodes) := by
  cases nodes with
  | nil => rfl
  | cons node nodes =>
    rw [childFocusPaths, focusPaths_eq (path ++ [position]) node,
      childFocusPaths_eq path (position + 1) nodes, placedFrom, focusedPlaces_append,
      focusedPlaces_under]

end

/-- The number of focused nodes of a tree. -/
def focusCount (node : Node) : Nat :=
  node.placed.countP (·.2.isFocused)

end Node

/-- There are as many names as focused nodes. -/
theorem length_focusNames (root : Node) : (focusNames root).length = root.focusCount := by
  have hpaths := congrArg List.length (root.focusPaths_eq [])
  rw [Node.focusedPlaces, List.length_map, ← List.countP_eq_length_filter,
    List.length_append] at hpaths
  rw [Node.focusCount, ← hpaths, focusNames, List.length_append, List.length_map]
  split
  · rfl
  · rfl

/-- The rule on focus fails, and then names the focused nodes, exactly when there
are two of them. -/
theorem checkFocus_eq_error_iff (root : Node) {fault : Layout.Fault} :
    checkFocus root = .error fault ↔
      2 ≤ root.focusCount ∧ fault = .multipleFocus (focusNames root) := by
  show (if (focusNames root).length > 1 then _ else _) = _ ↔ _
  rw [length_focusNames]
  by_cases htwo : root.focusCount > 1
  · have hle : 2 ≤ root.focusCount := htwo
    simp [htwo, hle, eq_comm]
  · have hlt : ¬ 2 ≤ root.focusCount := htwo
    simp [htwo, hlt]

end TmuxLayout
