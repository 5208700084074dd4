import TmuxLayout.Proofs.Compile.Commands
import TmuxLayout.Proofs.Except
import TmuxLayout.Proofs.Layout.Places

/-!
# Compiling fails where the check does (SPEC_FULL.md §4.2)

Ratios are checked twice: all of them before a layout is used, and each again when
the container it belongs to is compiled. Here both are compared with a list of
all containers whose ratio does not fit, in the order of their places.

- `placePath`: the path of a place in faults.
- `Node.mismatch?`, `Node.mismatches`: the fault of one container, and those of
  all containers of a tree.
- `Node.reports_checkRatios`: the check fails with the first of them.
- `Layout.compile_eq_error_iff`: compiling fails as the check does, and in no other
  way.
-/

namespace TmuxLayout

/-- The path of a place below a path. -/
def placePath (parent : String) (place : Place) : String :=
  place.foldl (fun path number => path ++ ".panes[" ++ toString number ++ "]") parent

/-- The path of a place goes on from that of its first child. -/
theorem placePath_cons (parent : String) (number : Nat) (place : Place) :
    placePath parent (number :: place) = placePath (childPath parent number) place := rfl

namespace Node

/-- The fault of a container whose ratio does not fit. -/
def mismatch? (path : String) : Node → Option Layout.Fault
  | pane _ => none
  | container frame children =>
    frame.ratio.bind fun ratio =>
      if ratio.length = children.length then none
      else some (.ratioLengthMismatch path ratio.length children.length)

/-- The faults of nodes with their places, below a path. -/
def mismatchesOf (path : String) (nodes : List (Place × Node)) : List Layout.Fault :=
  nodes.filterMap fun (place, node) => node.mismatch? (placePath path place)

/-- The faults of all containers of a tree whose ratio does not fit. -/
def mismatches (path : String) (node : Node) : List Layout.Fault :=
  mismatchesOf path node.placed

theorem mismatches_pane (path : String) (p : Pane) : (pane p).mismatches path = [] := rfl

/-- The mismatch of a container comes before those below it. -/
theorem mismatches_container (path : String) (frame : Frame) (children : List Node) :
    (container frame children).mismatches path =
      ((container frame children).mismatch? path).toList ++
        mismatchesOf path (placedFrom 0 children) := by
  have hroot : placePath path [] = path := rfl
  rw [mismatches, placed, mismatchesOf, List.filterMap_cons]
  dsimp only
  rw [hroot]
  cases (container frame children).mismatch? path with
  | none => rfl
  | some fault => rfl

/-- The mismatches of a child come before those of its later siblings. -/
theorem mismatchesOf_cons (path : String) (position : Nat) (node : Node) (nodes : List Node) :
    mismatchesOf path (placedFrom position (node :: nodes)) =
      node.mismatches (childPath path position) ++
        mismatchesOf path (placedFrom (position + 1) nodes) := by
  rw [placedFrom, mismatchesOf, List.filterMap_append, List.filterMap_map]
  rfl

/-! ## The check -/

/-- The check of one container reports its own mismatch. -/
theorem reports_checkRatio (path : String) (frame : Frame) (children : List Node) :
    (checkRatio frame children.length path).Reports
      ((container frame children).mismatch? path).toList := by
  rw [checkRatio, mismatch?]
  cases frame.ratio with
  | none => rfl
  | some ratio =>
    dsimp only [Option.bind_some]
    by_cases hlength : ratio.length = children.length
    · rw [if_neg (not_not_intro hlength), if_pos hlength]
      rfl
    · rw [if_pos hlength, if_neg hlength]
      rfl

mutual

/-- The check of a tree fails at the first container whose ratio does not fit. -/
theorem reports_checkRatios (path : String) (node : Node) :
    (node.checkRatios path).Reports (node.mismatches path) := by
  cases node with
  | pane p => exact mismatches_pane path p
  | container frame children =>
    rw [checkRatios, mismatches_container]
    exact (reports_checkRatio path frame children).bind fun _ _ =>
      reports_checkChildRatios path 0 children

theorem reports_checkChildRatios (path : String) (position : Nat) (nodes : List Node) :
    (checkChildRatios path position nodes).Reports
      (mismatchesOf path (placedFrom position nodes)) := by
  cases nodes with
  | nil => rfl
  | cons node nodes =>
    rw [checkChildRatios, mismatchesOf_cons]
    exact (reports_checkRatios (childPath path position) node).bind fun _ _ =>
      reports_checkChildRatios path (position + 1) nodes

end

/-- A mismatch has the path of its container and two lengths that differ. -/
theorem eq_of_mismatch? {path : String} {node : Node} {fault : Layout.Fault}
    (h : node.mismatch? path = some fault) :
    ∃ ratioLength childCount, ratioLength ≠ childCount ∧
      fault = .ratioLengthMismatch path ratioLength childCount := by
  cases node with
  | pane p => cases h
  | container frame children =>
    obtain ⟨ratio, -, hratio⟩ := Option.bind_eq_some_iff.mp h
    by_cases hlength : ratio.length = children.length
    · rw [if_pos hlength] at hratio
      cases hratio
    · rw [if_neg hlength] at hratio
      cases hratio
      exact ⟨_, _, hlength, rfl⟩

end Node

/-! ## Layouts -/

namespace Layout

/-- Compiling fails with the fault of the check of ratios, and with no other. -/
theorem compile_eq_error (layout : Layout) (directory window : Option String) {fault : Fault} :
    layout.compile directory window = .error fault ↔
      layout.root.checkRatios rootPath = .error fault := by
  rw [compile_eq]
  cases layout.root.checkRatios rootPath with
  | error other => simp [Except.map]
  | ok _ => simp [Except.map]

/-- **Compiling fails where the check of ratios does.** It fails with the fault of
the first container, in the order of their places, whose ratio does not fit, and
so does the check. A layout without such a container compiles, in particular each
valid one. -/
theorem compile_eq_error_iff (layout : Layout) (directory window : Option String) :
    (∀ fault, layout.compile directory window = .error fault ↔
      layout.root.checkRatios "layout" = .error fault) ∧
    (∀ fault, layout.compile directory window = .error fault ↔
      (layout.root.mismatches "layout").head? = some fault) ∧
    (∀ fault, layout.compile directory window = .error fault →
      ∃ path ratioLength childCount,
        fault = .ratioLengthMismatch path ratioLength childCount) ∧
    (layout.validate = .ok () → ∃ steps, layout.compile directory window = .ok steps) := by
  have hreports := layout.root.reports_checkRatios rootPath
  have hfirst : ∀ fault, layout.compile directory window = .error fault ↔
      (layout.root.mismatches rootPath).head? = some fault := by
    intro fault
    rw [compile_eq_error, hreports.error_iff]
  refine ⟨fun fault => compile_eq_error layout directory window, hfirst, ?_, ?_⟩
  · intro fault hfault
    have hmem := List.mem_of_mem_head? ((hfirst fault).mp hfault)
    obtain ⟨⟨place, node⟩, -, hmismatch⟩ := List.mem_filterMap.mp hmem
    obtain ⟨ratioLength, childCount, -, heq⟩ := Node.eq_of_mismatch? hmismatch
    exact ⟨_, ratioLength, childCount, heq⟩
  · intro hvalid
    obtain ⟨⟨⟩, hratios, -⟩ := Except.bind_eq_ok_iff.mp hvalid
    exact ⟨_, compile_of_checkRatios directory window hratios⟩

/-- Of a ratio that is too short deep in the first child and one that is too long
in the second, the first is found. Without the second child, and with a weight
more, the layout is valid. -/
theorem compile_eq_error_of_two :
    let deep (weights : List Float) := Node.container (.plain .vertical)
      [.pane .blank, .container ((Frame.plain .vertical).withRatio weights) [.pane .blank]]
    let layout : Layout := ⟨none, .plain .horizontal,
      [deep [], .container ((Frame.plain .vertical).withRatio [1.0]) []]⟩
    let fitting : Layout := ⟨none, .plain .horizontal, [deep [1.0]]⟩
    (layout.root.mismatches "layout").length = 2 ∧
      layout.compile none none =
        .error (.ratioLengthMismatch "layout.panes[0].panes[1]" 0 1) ∧
      fitting.validate = .ok () ∧ ∃ steps, fitting.compile none none = .ok steps := by
  intro deep layout fitting
  have hvalid : fitting.validate = .ok () := rfl
  refine ⟨rfl, ?_, hvalid, (compile_eq_error_iff fitting none none).2.2.2 hvalid⟩
  exact ((compile_eq_error_iff layout none none).2.1 _).mpr rfl

end Layout

end TmuxLayout
