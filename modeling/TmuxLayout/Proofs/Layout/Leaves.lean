import TmuxLayout.Layout.Basic

/-!
# Leaves and containers of a layout

What a tree of containers holds, read off without any numbering.

- `Pane.IsTitled`: a pane has a name that is not empty.
- `Node.leaves`, `Layout.leaves`: the panes of a tree, from left to right.
- `Node.fanouts`, `Layout.fanouts`: the number of children of each container, a
  container before those below it.
- `Node.splitCount`: how many splits the containers of a tree take together.
- `Node.exists_of_focusTitle?`: the title for focus is that of a leaf.
- `Node.paneCount_le_splitCount`: a tree never has more leaves than its splits
  make panes out of one. Empty containers make the difference.
-/

namespace TmuxLayout

/-! ## Titles and commands -/

namespace Pane

/-- A pane has a name, and one that is not empty. -/
def IsTitled (pane : Pane) (title : String) : Prop :=
  pane.name = some title ∧ title ≠ ""

/-- A text is kept when it is not empty. -/
theorem filter_isEmpty (text : Option String) :
    text.filter (!·.isEmpty) = text.filter (· ≠ "") := by
  cases text with
  | none => rfl
  | some text => simp [Option.filter_some]

/-- The title of a pane is its name, unless that is empty. -/
theorem title?_eq (pane : Pane) : pane.title? = pane.name.filter (· ≠ "") :=
  filter_isEmpty pane.name

/-- What a pane starts is its command, unless that is empty. -/
theorem startupCommand?_eq (pane : Pane) :
    pane.startupCommand? = pane.command.filter (· ≠ "") :=
  filter_isEmpty pane.command

theorem title?_eq_some_iff {pane : Pane} {title : String} :
    pane.title? = some title ↔ pane.IsTitled title := by
  rw [title?_eq, Option.filter_eq_some_iff, IsTitled, decide_eq_true_iff]

end Pane

/-! ## Leaves -/

namespace Node

mutual

/-- The panes of a node, from left to right. -/
def leaves : Node → List Pane
  | pane p => [p]
  | container _ children => childLeaves children

/-- The panes of a row of nodes, from left to right. -/
def childLeaves : List Node → List Pane
  | [] => []
  | node :: nodes => node.leaves ++ childLeaves nodes

end

mutual

/-- The number of children of each container in a node. -/
def fanouts : Node → List Nat
  | pane _ => []
  | container _ children => children.length :: childFanouts children

/-- The number of children of each container in a row of nodes. -/
def childFanouts : List Node → List Nat
  | [] => []
  | node :: nodes => node.fanouts ++ childFanouts nodes

end

mutual

theorem length_leaves (node : Node) : node.leaves.length = node.paneCount := by
  cases node with
  | pane p => rfl
  | container frame children =>
    rw [leaves, paneCount]
    exact length_childLeaves children

theorem length_childLeaves (nodes : List Node) :
    (childLeaves nodes).length = paneCounts nodes := by
  cases nodes with
  | nil => rfl
  | cons node nodes =>
    rw [childLeaves, paneCounts, List.length_append, length_leaves node,
      length_childLeaves nodes]

end

mutual

/-- The title for focus is that of a leaf. -/
theorem exists_of_focusTitle? (node : Node) {title : String}
    (h : node.focusTitle? = some title) : ∃ leaf ∈ node.leaves, leaf.title? = some title := by
  cases node with
  | pane p =>
    rw [focusTitle?] at h
    split at h
    · exact ⟨p, List.mem_singleton_self p, h⟩
    · cases h
  | container frame children =>
    rw [leaves]
    exact exists_of_focusTitles? children h

theorem exists_of_focusTitles? (nodes : List Node) {title : String}
    (h : focusTitles? nodes = some title) :
    ∃ leaf ∈ childLeaves nodes, leaf.title? = some title := by
  cases nodes with
  | nil => cases h
  | cons node nodes =>
    obtain hnode | ⟨-, hnodes⟩ := Option.or_eq_some_iff.mp h
    · obtain ⟨leaf, hleaf, htitle⟩ := exists_of_focusTitle? node hnode
      exact ⟨leaf, List.mem_append_left _ hleaf, htitle⟩
    · obtain ⟨leaf, hleaf, htitle⟩ := exists_of_focusTitles? nodes hnodes
      exact ⟨leaf, List.mem_append_right _ hleaf, htitle⟩

end

/-! ## Splits -/

/-- The number of splits that containers with these numbers of children take: all
children but the first of a container get their pane from a split. -/
def splitsFor : (fanouts : List Nat) → Nat
  | [] => 0
  | n :: fanouts => n - 1 + splitsFor fanouts

theorem splitsFor_append (fanouts others : List Nat) :
    splitsFor (fanouts ++ others) = splitsFor fanouts + splitsFor others := by
  induction fanouts with
  | nil => rw [List.nil_append, splitsFor, Nat.zero_add]
  | cons n fanouts ih => rw [List.cons_append, splitsFor, splitsFor, ih, Nat.add_assoc]

/-- The number of splits in a node. -/
def splitCount (node : Node) : Nat :=
  splitsFor node.fanouts

/-- The number of splits in a row of nodes. -/
def childSplitCount (nodes : List Node) : Nat :=
  splitsFor (childFanouts nodes)

theorem splitCount_container (frame : Frame) (children : List Node) :
    (container frame children).splitCount =
      children.length - 1 + childSplitCount children := by
  rw [splitCount, fanouts, splitsFor, childSplitCount]

theorem childSplitCount_cons (node : Node) (nodes : List Node) :
    childSplitCount (node :: nodes) = node.splitCount + childSplitCount nodes := by
  rw [childSplitCount, childFanouts, splitsFor_append, splitCount, childSplitCount]

/-- Empty containers take no splits, so they may be left out. -/
theorem splitsFor_filter_pos (counts : List Nat) :
    splitsFor (counts.filter (1 ≤ ·)) = splitsFor counts := by
  induction counts with
  | nil => rfl
  | cons n counts ih =>
    by_cases hn : 1 ≤ n
    · rw [List.filter_cons_of_pos (by simpa using hn), splitsFor, splitsFor, ih]
    · rw [List.filter_cons_of_neg (by simpa using hn), splitsFor, ih]
      omega

mutual

/-- The splits of a node make a pane for each of its leaves out of a single one. -/
theorem paneCount_le_splitCount (node : Node) : node.paneCount ≤ node.splitCount + 1 := by
  cases node with
  | pane p => exact Nat.le_refl 1
  | container frame children =>
    have hchildren := paneCounts_le_childSplitCount children
    rw [paneCount, splitCount_container]
    cases children with
    -- an empty container splits nothing and has no leaf: one pane is left over
    | nil => exact Nat.zero_le _
    | cons node nodes =>
      rw [List.length_cons] at hchildren ⊢
      omega

/-- The splits of a row of nodes make a pane for each of its leaves out of one
for each node. -/
theorem paneCounts_le_childSplitCount (nodes : List Node) :
    paneCounts nodes ≤ childSplitCount nodes + nodes.length := by
  cases nodes with
  | nil => exact Nat.zero_le _
  | cons node nodes =>
    have hnode := paneCount_le_splitCount node
    have hnodes := paneCounts_le_childSplitCount nodes
    rw [paneCounts, childSplitCount_cons, List.length_cons]
    omega

end

end Node

namespace Layout

/-- The panes of a layout, from left to right. -/
def leaves (layout : Layout) : List Pane :=
  layout.root.leaves

/-- The number of children of each container of a layout. -/
def fanouts (layout : Layout) : List Nat :=
  layout.root.fanouts

/-- There are as many panes as leaves. -/
theorem length_leaves_eq_paneCount (layout : Layout) :
    layout.leaves.length = layout.paneCount :=
  Node.length_leaves layout.root

end Layout

end TmuxLayout
