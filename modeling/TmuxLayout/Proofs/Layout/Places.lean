import TmuxLayout.Layout.Basic

/-!
# Places in a layout

A node of a tree is found by the child numbers that lead to it. Listed with their
places, the nodes of a tree come in the order of their places: a node before
those below it, and all that is left of a node before it.

- `Place`: child numbers, from the root down.
- `Node.placed`, `Node.placedFrom`: the nodes of a tree, and of a row of trees,
  with their places.
- `Node.at?`: the node at a place. `Node.mem_placed_iff` says that `placed` lists
  all nodes, and `Node.pairwise_placed` that it does so in order.
- `leavesBefore`: how many leaves have a smaller place.
- `Node.leavesBefore_under`, `Node.leavesBefore_behind`: the leaves before a node
  of a row, when it is in the first tree of the row and when it is not.
-/

namespace TmuxLayout

/-- A place in a tree: child numbers, from the root down. -/
abbrev Place := List Nat

namespace Node

mutual

/-- The nodes of a tree with their places, a node before those below it and all
from left to right. -/
def placed : Node → List (Place × Node)
  | pane p => [([], pane p)]
  | container frame children => ([], container frame children) :: placedFrom 0 children

/-- The nodes of a row of trees with their places, the first tree being the child
with the number `position`. -/
def placedFrom (position : Nat) : List Node → List (Place × Node)
  | [] => []
  | node :: nodes =>
    node.placed.map (fun (place, other) => (position :: place, other)) ++
      placedFrom (position + 1) nodes

end

/-- The node at a place. -/
def at? : Node → Place → Option Node
  | node, [] => some node
  | pane _, _ :: _ => none
  | container _ children, number :: place => children[number]?.bind (·.at? place)

/-- The places in a row begin with the number of their tree. -/
theorem exists_of_mem_placedFrom {position : Nat} {nodes : List Node} {place : Place}
    {other : Node} (h : (place, other) ∈ placedFrom position nodes) :
    ∃ number rest, place = number :: rest ∧ position ≤ number := by
  induction nodes generalizing position with
  | nil => cases h
  | cons node nodes ih =>
    rw [placedFrom] at h
    rcases List.mem_append.mp h with hfirst | hrest
    · obtain ⟨⟨rest, inner⟩, -, heq⟩ := List.mem_map.mp hfirst
      cases heq
      exact ⟨position, rest, rfl, Nat.le_refl position⟩
    · obtain ⟨number, rest, heq, hle⟩ := ih hrest
      exact ⟨number, rest, heq, by omega⟩

mutual

/-- The nodes that are listed with their places are those at the places. -/
theorem mem_placed_iff {node other : Node} {place : Place} :
    (place, other) ∈ node.placed ↔ node.at? place = some other := by
  cases node with
  | pane p =>
    cases place with
    | nil => simp [placed, at?, eq_comm]
    | cons number rest => simp [placed, at?]
  | container frame children =>
    rw [placed, List.mem_cons]
    cases place with
    | nil =>
      constructor
      · rintro (heq | hmem)
        · cases heq
          rfl
        · obtain ⟨number, rest, heq, -⟩ := exists_of_mem_placedFrom hmem
          cases heq
      · intro h
        cases h
        exact .inl rfl
    | cons number rest =>
      have hrow : (number :: rest, other) ∈ placedFrom 0 children ↔
          children[number]?.bind (·.at? rest) = some other := by
        have hrow := @mem_placedFrom_iff children other 0 number rest
        rwa [Nat.zero_add] at hrow
      rw [at?, ← hrow]
      constructor
      · rintro (heq | hmem)
        · cases heq
        · exact hmem
      · exact .inr

theorem mem_placedFrom_iff {nodes : List Node} {other : Node} {position number : Nat}
    {rest : Place} :
    ((position + number) :: rest, other) ∈ placedFrom position nodes ↔
      nodes[number]?.bind (·.at? rest) = some other := by
  cases nodes with
  | nil => simp [placedFrom]
  | cons node nodes =>
    rw [placedFrom, List.mem_append, List.mem_map]
    cases number with
    | zero =>
      rw [List.getElem?_cons_zero, Option.bind_some, ← @mem_placed_iff node]
      constructor
      · rintro (⟨⟨place, inner⟩, hmem, heq⟩ | hmem)
        · cases heq
          exact hmem
        · obtain ⟨number, rest, heq, hle⟩ := exists_of_mem_placedFrom hmem
          cases heq
          omega
      · intro hmem
        exact .inl ⟨_, hmem, rfl⟩
    -- the places below the first node begin with its number
    | succ number =>
      rw [List.getElem?_cons_succ, ← @mem_placedFrom_iff nodes other (position + 1),
        Nat.add_right_comm, Nat.add_assoc]
      constructor
      · rintro (⟨⟨place, inner⟩, -, heq⟩ | hmem)
        · cases heq
        · exact hmem
      · exact .inr

end

mutual

/-- Every node stands before those that are listed behind it. -/
theorem pairwise_placed (node : Node) :
    node.placed.Pairwise fun (place, _) (other, _) => place < other := by
  cases node with
  | pane p => exact List.pairwise_singleton _ _
  | container frame children =>
    rw [placed, List.pairwise_cons]
    refine ⟨?_, pairwise_placedFrom 0 children⟩
    rintro ⟨place, other⟩ hmem
    obtain ⟨number, rest, rfl, -⟩ := exists_of_mem_placedFrom hmem
    exact List.nil_lt_cons number rest

theorem pairwise_placedFrom (position : Nat) (nodes : List Node) :
    (placedFrom position nodes).Pairwise fun (place, _) (other, _) => place < other := by
  cases nodes with
  | nil => exact .nil
  | cons node nodes =>
    rw [placedFrom, List.pairwise_append, List.pairwise_map]
    refine ⟨?_, pairwise_placedFrom (position + 1) nodes, ?_⟩
    · refine (pairwise_placed node).imp fun hlt => ?_
      exact List.cons_lt_cons_iff.mpr (.inr ⟨rfl, hlt⟩)
    · rintro ⟨place, inner⟩ hfirst ⟨other, behind⟩ hrest
      obtain ⟨⟨rest, _⟩, -, heq⟩ := List.mem_map.mp hfirst
      obtain ⟨number, rest', rfl, hle⟩ := exists_of_mem_placedFrom hrest
      cases heq
      exact List.cons_lt_cons_iff.mpr (.inl hle)

end

end Node

/-! ## Leaves before a place -/

/-- Whether a node is a leaf. -/
def Node.isPane : Node → Bool
  | .pane _ => true
  | .container _ _ => false

/-- How many leaves among nodes stand before a place. Places are compared child
number by child number, so a node does not stand before those below it only. -/
def leavesBefore (nodes : List (Place × Node)) (place : Place) : Nat :=
  nodes.countP fun (other, node) => node.isPane && decide (other < place)

theorem leavesBefore_append (nodes others : List (Place × Node)) (place : Place) :
    leavesBefore (nodes ++ others) place = leavesBefore nodes place + leavesBefore others place :=
  List.countP_append

theorem leavesBefore_nil (nodes : List (Place × Node)) : leavesBefore nodes [] = 0 :=
  List.countP_eq_zero.mpr (by simp)

namespace Node

mutual

/-- The leaves among the nodes of a tree are counted by its number of panes. -/
theorem countP_isPane_placed (node : Node) :
    node.placed.countP (·.2.isPane) = node.paneCount := by
  cases node with
  | pane p => rfl
  | container frame children =>
    rw [placed, List.countP_cons_of_neg (by simp [isPane]), paneCount]
    exact countP_isPane_placedFrom 0 children

theorem countP_isPane_placedFrom (position : Nat) (nodes : List Node) :
    (placedFrom position nodes).countP (·.2.isPane) = paneCounts nodes := by
  cases nodes with
  | nil => rfl
  | cons node nodes =>
    rw [placedFrom, List.countP_append, List.countP_map, paneCounts,
      countP_isPane_placedFrom (position + 1) nodes, ← countP_isPane_placed node]
    rfl

end

variable (position : Nat) (node : Node) (nodes : List Node)

/-- Before a node of the first tree stand the leaves of that tree alone. -/
theorem leavesBefore_under (place : Place) :
    leavesBefore (placedFrom position (node :: nodes)) (position :: place) =
      leavesBefore node.placed place := by
  have hrest : leavesBefore (placedFrom (position + 1) nodes) (position :: place) = 0 := by
    refine List.countP_eq_zero.mpr ?_
    rintro ⟨other, inner⟩ hmem hbefore
    obtain ⟨number, rest, rfl, hle⟩ := exists_of_mem_placedFrom hmem
    simp [List.cons_lt_cons_iff] at hbefore
    omega
  rw [placedFrom, leavesBefore_append, hrest, Nat.add_zero, leavesBefore, List.countP_map,
    leavesBefore]
  exact List.countP_congr fun ⟨other, inner⟩ _ => by simp

/-- Before a node behind the first tree stand all leaves of that tree. -/
theorem leavesBefore_behind {place : Place} {other : Node}
    (h : (place, other) ∈ placedFrom (position + 1) nodes) :
    leavesBefore (placedFrom position (node :: nodes)) place =
      node.paneCount + leavesBefore (placedFrom (position + 1) nodes) place := by
  obtain ⟨number, rest, rfl, hle⟩ := exists_of_mem_placedFrom h
  have hfirst : leavesBefore (node.placed.map fun (place, other) => (position :: place, other))
      (number :: rest) = node.paneCount := by
    rw [leavesBefore, List.countP_map, ← countP_isPane_placed node]
    refine List.countP_congr fun ⟨place, inner⟩ _ => ?_
    have hlt : position :: place < number :: rest := List.cons_lt_cons_iff.mpr (.inl hle)
    simp [hlt]
  rw [placedFrom, leavesBefore_append, hfirst]

end Node

end TmuxLayout
