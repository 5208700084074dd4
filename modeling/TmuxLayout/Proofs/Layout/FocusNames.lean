import Mathlib.Data.List.Nodup
import TmuxLayout.Proofs.Layout.Focus
import TmuxLayout.Proofs.Text.Numeral

/-!
# Names of focused nodes (SPEC_FULL.md §4.1)

The fault about focus names every focused node by its place: `root` for the root, and
for any other node the child numbers that lead to it, joined by dots. A name can be
read back, so no two nodes share one, and whoever follows it from the root comes to a
focused node.

- `focusName`: what the fault calls the node at a place.
- `placeNamed?`: the place that a name leads to; `placeNamed?_focusName` says that no
  name is lost.
- `focusNames_eq`: the fault names the places of the focused nodes, in order.
- `checkFocus_names_focused`: the rule on focus, and what its fault names.
-/

namespace TmuxLayout

/-! ## Names -/

/-- What a fault calls the node at a place. -/
def focusName : Place → String
  | [] => "root"
  | number :: place => ".".intercalate ((number :: place).map toString)

/-- The numbers that are joined by dots in a text. -/
def undotted? (text : String) : Option (List Nat) :=
  (text.toList.splitOn '.').mapM Text.numberOf?

/-- The place that a name leads to. -/
def placeNamed? (name : String) : Option Place :=
  if name = "root" then some [] else undotted? name

/-- Numbers joined by dots can be told apart again. -/
theorem undotted?_dotted {indices : List Nat} (h : indices ≠ []) :
    undotted? (dotted indices) = some indices := by
  have hsplit : (dotted indices).toList.splitOn '.' =
      indices.map fun number => (toString number).toList := by
    rw [dotted, String.toList_intercalate, List.map_map]
    refine List.splitOn_intercalate '.' ?_ ?_
    · intro digits hdigits
      obtain ⟨number, -, rfl⟩ := List.mem_map.mp hdigits
      exact fun hdot => absurd (Text.isDigit_of_mem_toString hdot) (by decide)
    · exact fun hnil => h (List.map_eq_nil_iff.mp hnil)
  rw [undotted?, hsplit, List.mapM_map]
  have hread : (Text.numberOf? ∘ fun number : Nat => (toString number).toList) = some :=
    funext Text.numberOf?_toString
  rw [hread]
  exact List.mapM_pure.trans (congrArg some (List.map_id indices))

/-- A name leads to the place that has it. -/
theorem placeNamed?_focusName (place : Place) : placeNamed? (focusName place) = some place := by
  cases place with
  | nil => exact if_pos rfl
  | cons number place =>
    have hread := undotted?_dotted (List.cons_ne_nil number place)
    have hroot : dotted (number :: place) ≠ "root" := by
      intro heq
      have hnone : undotted? "root" = none := by decide
      rw [heq, hnone] at hread
      cases hread
    show placeNamed? (dotted (number :: place)) = _
    rw [placeNamed?, if_neg hroot, hread]

/-- Different places have different names. -/
theorem focusName_injective : Function.Injective focusName := by
  intro place other h
  have hplace := congrArg placeNamed? h
  rw [placeNamed?_focusName, placeNamed?_focusName] at hplace
  exact Option.some_inj.mp hplace

/-! ## The names in the fault -/

namespace Node

/-- The places of the focused nodes of a tree, in order. -/
def focused (root : Node) : List Place :=
  focusedPlaces [] root.placed

/-- The focused places are those where a node has focus. -/
theorem mem_focused_iff {root : Node} {place : Place} :
    place ∈ root.focused ↔ ∃ node, root.at? place = some node ∧ node.HasFocus := by
  rw [focused, focusedPlaces, List.mem_map]
  constructor
  · rintro ⟨⟨other, node⟩, hmem, rfl⟩
    obtain ⟨hplaced, hfocused⟩ := List.mem_filter.mp hmem
    exact ⟨node, mem_placed_iff.mp hplaced, isFocused_iff.mp hfocused⟩
  · rintro ⟨node, hat, hfocused⟩
    have hmem : (place, node) ∈ root.placed.filter (·.2.isFocused) :=
      List.mem_filter.mpr ⟨mem_placed_iff.mpr hat, isFocused_iff.mpr hfocused⟩
    exact ⟨(place, node), hmem, rfl⟩

/-- The focused places come in pre-order. -/
theorem pairwise_focused (root : Node) : root.focused.Pairwise (· < ·) := by
  rw [focused, focusedPlaces, List.pairwise_map]
  exact (pairwise_placed root).filter _

theorem length_focused (root : Node) : root.focused.length = root.focusCount := by
  rw [focused, focusedPlaces, List.length_map, ← List.countP_eq_length_filter, focusCount]

/-- What stands below the root has a place of its own. -/
theorem ne_nil_of_mem_focusPaths {root : Node} {place : Place} (h : place ∈ root.focusPaths []) :
    place ≠ [] := by
  cases root with
  | pane p => cases h
  | container frame children =>
    rw [focusPaths, childFocusPaths_eq, focusedPlaces, List.mem_map] at h
    obtain ⟨⟨other, node⟩, hmem, rfl⟩ := h
    obtain ⟨number, rest, rfl, -⟩ := exists_of_mem_placedFrom (List.mem_filter.mp hmem).1
    exact List.cons_ne_nil number rest

end Node

/-- The fault names the places of the focused nodes, in order. -/
theorem focusNames_eq (root : Node) : focusNames root = root.focused.map focusName := by
  have hbelow : (root.focusPaths []).map dotted = (root.focusPaths []).map focusName := by
    refine List.map_congr_left fun place hplace => ?_
    obtain ⟨number, rest, rfl⟩ := List.exists_cons_of_ne_nil (Node.ne_nil_of_mem_focusPaths hplace)
    rfl
  rw [focusNames, hbelow, Node.focused, ← Node.focusPaths_eq, List.map_append]
  split
  · rfl
  · rfl

/-- **The rule on focus is exact.** It fails when two nodes or more have focus, and only
then. What the fault names are the focused nodes and no others, the root, containers
and panes alike: each of them once, a node before those below it and all from left to
right. A name that is followed from the root leads to a focused node. -/
theorem checkFocus_names_focused (root : Node) :
    ∃ places : List Place,
      places.Pairwise (· < ·) ∧
      (∀ place, place ∈ places ↔ ∃ node, root.at? place = some node ∧ node.HasFocus) ∧
      (∀ fault, checkFocus root = .error fault ↔
        2 ≤ places.length ∧ fault = .multipleFocus (places.map focusName)) ∧
      (places.map focusName).Nodup ∧
      ∀ name ∈ places.map focusName, ∃ place node,
        placeNamed? name = some place ∧ root.at? place = some node ∧ node.HasFocus := by
  refine ⟨root.focused, root.pairwise_focused, fun _ => Node.mem_focused_iff, fun fault => ?_,
    ?_, ?_⟩
  · rw [checkFocus_eq_error_iff, Node.length_focused, focusNames_eq]
  · exact root.pairwise_focused.nodup.map focusName_injective
  · intro name hname
    obtain ⟨place, hplace, rfl⟩ := List.mem_map.mp hname
    obtain ⟨node, hat, hfocused⟩ := Node.mem_focused_iff.mp hplace
    exact ⟨place, node, placeNamed?_focusName place, hat, hfocused⟩

/-- A tree with three focused nodes: the root, a container below it, and a pane in that. -/
def threeFocused : Node :=
  .container (Frame.plain .horizontal).focused [.pane (.named "editor"),
    .container (Frame.plain .vertical).focused [.pane (Pane.named "logs").focused]]

/-- All three are named, and the name of the container leads to it. -/
theorem checkFocus_names_focused_three :
    checkFocus threeFocused = .error (.multipleFocus ["root", "1", "1.0"]) ∧
      ∃ place node, placeNamed? "1" = some place ∧ threeFocused.at? place = some node ∧
        node.HasFocus := by
  obtain ⟨places, -, -, hfault, -, hread⟩ := checkFocus_names_focused threeFocused
  have herror : checkFocus threeFocused = .error (.multipleFocus ["root", "1", "1.0"]) := by
    decide +kernel
  obtain ⟨-, hnames⟩ := (hfault _).mp herror
  refine ⟨herror, hread "1" ?_⟩
  rw [← Layout.Fault.multipleFocus.inj hnames]
  exact List.mem_cons_of_mem _ List.mem_cons_self

end TmuxLayout
