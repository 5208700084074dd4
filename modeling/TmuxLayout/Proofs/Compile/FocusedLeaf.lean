import TmuxLayout.Proofs.Compile.Seating
import TmuxLayout.Proofs.Layout.Focus

/-!
# The pane that focus ends in (SPEC_FULL.md §4.2)

Focus is asked for by title, so what counts is not which leaf carries it but which
leaf is the first with its title. The panes of leaves come in the order of their
places, and each of them remembers the leaf that its title was for.

- `Window.focus_of_panes`: focus ends in the first pane that is wanted.
- `Node.focusTitle?_eq`: the title for focus, by place; with one focused node in a
  tree it is the title of that node.
- `Layout.IsFirstTitled`: the first leaf with a title.
- `Layout.focuses_first_titled`: the active pane in the end is that of the first leaf
  with the title of the focused one.
-/

namespace TmuxLayout

theorem Window.focus_of_panes {α : Type} {w : Window α} {before after : List α} {pane : α}
    {wanted : α → Bool} (h : w.panes = before ++ pane :: after) (hpane : wanted pane = true)
    (hbefore : ∀ other ∈ before, wanted other = false) :
    w.focus wanted = ⟨before, pane, after⟩ := by
  have hindex : w.panes.findIdx? wanted = some before.length := by
    rw [h, List.findIdx?_append, List.findIdx?_eq_none_iff.mpr hbefore, List.findIdx?_cons, hpane]
    simp
  rw [focus, hindex, Option.bind_some, select?_of_panes h, Option.getD_some]

/-! ## The title for focus -/

namespace Node

/-- The title of a focused pane, if the node is one. -/
def ownFocusTitle? : Node → Option String
  | pane p => if p.focus then p.title? else none
  | container _ _ => none

mutual

/-- The title for focus is the first one by place. -/
theorem focusTitle?_eq (node : Node) :
    node.focusTitle? = node.placed.findSome? fun (_, other) => other.ownFocusTitle? := by
  cases node with
  | pane p =>
    rw [focusTitle?, placed, List.findSome?_singleton]
    rfl
  | container frame children =>
    rw [focusTitle?, placed, List.findSome?_cons, focusTitles?_eq 0 children]
    rfl

theorem focusTitles?_eq (position : Nat) (nodes : List Node) :
    focusTitles? nodes =
      (placedFrom position nodes).findSome? fun (_, other) => other.ownFocusTitle? := by
  cases nodes with
  | nil => rfl
  | cons node nodes =>
    rw [focusTitles?, placedFrom, List.findSome?_append, List.findSome?_map,
      focusTitle?_eq node, focusTitles?_eq (position + 1) nodes]
    rfl

end

theorem isFocused_of_ownFocusTitle? {node : Node} {title : String}
    (h : node.ownFocusTitle? = some title) : node.isFocused = true := by
  cases node with
  | pane p =>
    rw [ownFocusTitle?] at h
    split at h
    · assumption
    · cases h
  | container frame children => cases h

/-- With one focused node at most, any two of them are the same. -/
theorem eq_of_focusCount_le {root : Node} (h : root.focusCount ≤ 1) {one other : Place × Node}
    (hone : one ∈ root.placed) (hother : other ∈ root.placed)
    (hfocus : one.2.isFocused = true) (hfocus' : other.2.isFocused = true) : one = other := by
  have hmem : one ∈ root.placed.filter (·.2.isFocused) := List.mem_filter.mpr ⟨hone, hfocus⟩
  have hmem' : other ∈ root.placed.filter (·.2.isFocused) :=
    List.mem_filter.mpr ⟨hother, hfocus'⟩
  -- two positions among the focused nodes, of which there is one at most
  rw [focusCount, List.countP_eq_length_filter] at h
  obtain ⟨i, hi, rfl⟩ := List.getElem_of_mem hmem
  obtain ⟨j, hj, rfl⟩ := List.getElem_of_mem hmem'
  have hij : i = j := by omega
  subst hij
  rfl

/-- With one focused node at most, the title for focus is the one that it has. -/
theorem focusTitle?_of_at? {root : Node} (h : root.focusCount ≤ 1) {place : Place} {pane : Pane}
    {title : String} (hat : root.at? place = some (.pane pane)) (hfocus : pane.focus = true)
    (htitle : pane.title? = some title) : root.focusTitle? = some title := by
  have hmem := mem_placed_iff.mpr hat
  have hown : (Node.pane pane).ownFocusTitle? = some title := by
    rw [ownFocusTitle?, if_pos hfocus, htitle]
  rw [focusTitle?_eq]
  cases hfound : root.placed.findSome? fun (_, other) => other.ownFocusTitle? with
  | none =>
    have hnone := List.findSome?_eq_none_iff.mp hfound _ hmem
    cases hnone.symm.trans hown
  | some found =>
    obtain ⟨other, hother, heq⟩ := List.exists_of_findSome?_eq_some hfound
    have hsame := eq_of_focusCount_le h hmem hother hfocus (isFocused_of_ownFocusTitle? heq)
    rw [← hsame] at heq
    exact heq.symm.trans hown

end Node

theorem focusCount_of_checkFocus {root : Node} (h : checkFocus root = .ok ()) :
    root.focusCount ≤ 1 := by
  refine Nat.le_of_not_lt fun htwo => ?_
  have herror := (checkFocus_eq_error_iff root).mpr ⟨htwo, rfl⟩
  rw [h] at herror
  cases herror

/-! ## The first leaf with a title -/

namespace Layout

/-- The leaf at a place has a title, and no leaf before it has. -/
def IsFirstTitled (layout : Layout) (title : String) (place : Place) : Prop :=
  (∃ pane, layout.root.at? place = some (.pane pane) ∧ pane.IsTitled title) ∧
    ∀ other pane, layout.root.at? other = some (.pane pane) → pane.IsTitled title →
      ¬ other < place

/-- The seats come in the order of their leaves. -/
theorem pairwise_seats (layout : Layout) :
    layout.seats.Pairwise fun seat other => seat.place < other.place := by
  have hleaves : (leavesAt [] layout.root.placed).Pairwise fun (place, _) (other, _) =>
      place < other := by
    refine layout.root.pairwise_placed.filterMap _ fun ⟨place, node⟩ ⟨other, node'⟩ hlt => ?_
    rintro ⟨place', pane⟩ heq ⟨other', pane'⟩ heq'
    cases node with
    | container frame children => cases heq
    | pane p =>
      cases node' with
      | container frame children => cases heq'
      | pane p' =>
        cases heq
        cases heq'
        exact hlt
  rw [← map_leaf_seats, List.pairwise_map] at hleaves
  exact hleaves

/-- The first of the seats whose leaves have a title is that of the first leaf with
it. -/
theorem isFirstTitled_of_seats {layout : Layout} {title : String} {before after : List Seat}
    {seat : Seat} (h : layout.seats = before ++ seat :: after)
    (htitle : seat.pane.IsTitled title)
    (hbefore : ∀ other ∈ before, ¬ other.pane.IsTitled title) :
    layout.IsFirstTitled title seat.place := by
  have hmem : seat ∈ layout.seats := by
    rw [h]
    exact List.mem_append_right _ List.mem_cons_self
  refine ⟨⟨seat.pane, at?_of_mem_seats hmem, htitle⟩, fun other pane hat hother => ?_⟩
  rw [← mem_leavesAt_iff, ← map_leaf_seats] at hat
  obtain ⟨otherSeat, hseat, heq⟩ := List.mem_map.mp hat
  cases heq
  have hpairwise := layout.pairwise_seats
  rw [h] at hseat hpairwise
  -- seats come in the order of places, so a smaller place has its seat before
  rcases List.mem_append.mp hseat with hfirst | hrest
  · exact absurd hother (hbefore otherSeat hfirst)
  · cases hrest with
    | head => exact List.lt_irrefl _
    | tail _ hlast =>
      have hcons := (List.pairwise_append.mp hpairwise).2.1
      exact List.lt_asymm ((List.pairwise_cons.mp hcons).1 otherSeat hlast)

/-- Where a leaf has a title, one of the seats is the first with it. -/
theorem exists_first_seat {layout : Layout} {title : String} {place : Place} {pane : Pane}
    (hat : layout.root.at? place = some (.pane pane)) (htitle : pane.IsTitled title) :
    ∃ before seat after, layout.seats = before ++ seat :: after ∧
      seat.pane.IsTitled title ∧ ∀ other ∈ before, ¬ other.pane.IsTitled title := by
  rw [← mem_leavesAt_iff, ← map_leaf_seats] at hat
  obtain ⟨marked, hmarked, heq⟩ := List.mem_map.mp hat
  cases heq
  obtain ⟨seat, hseat⟩ : ∃ seat, layout.seats.find? (·.pane.terminal.hasTitle title) = some seat :=
    Option.isSome_iff_exists.mp
      (List.find?_isSome.mpr ⟨marked, hmarked, Pane.hasTitle_terminal_iff.mpr htitle⟩)
  obtain ⟨hfirst, before, after, hseats, hbefore⟩ := List.find?_eq_some_iff_append.mp hseat
  refine ⟨before, seat, after, hseats, Pane.hasTitle_terminal_iff.mp hfirst, ?_⟩
  intro other hother htitled
  have hnot := hbefore other hother
  rw [Pane.hasTitle_terminal_iff.mpr htitled] at hnot
  cases hnot

/-- **Focus ends in the first leaf with the title of the marked one.** For a layout
that was read, whose focused node is a leaf with a title, running the commands fails
nowhere. The active pane in the end was selected and titled for the first leaf with
that title, and holds what that leaf was told. It is the pane of the marked leaf
exactly when no leaf before the marked one has the same title. -/
theorem focuses_first_titled {document : Document} {layout : Layout}
    (h : Layout.ofDocument document = .ok layout) {place : Place} {pane : Pane} {title : String}
    (hat : layout.root.at? place = some (.pane pane)) (hfocus : pane.focus = true)
    (htitle : pane.IsTitled title) (directory window : Option String)
    (start : Window Plot) :
    layout.compile directory window =
        .ok ((layout.placedSteps directory window).map PlacedStep.step) ∧
      ∃ w first, runPlaced start (layout.placedSteps directory window) = .ok w ∧
        runSteps (start.map Plot.terminal)
          ((layout.placedSteps directory window).map PlacedStep.step) =
            .ok (w.map Plot.terminal) ∧
        layout.IsFirstTitled title first ∧ w.active.titledFor = some first ∧
        (∃ leaf, layout.root.at? first = some (.pane leaf) ∧
          w.active.terminal = leaf.terminal) ∧
        (w.active.titledFor = some place ↔
          ∀ other leaf, layout.root.at? other = some (.pane leaf) →
            leaf.IsTitled title → ¬ other < place) := by
  obtain ⟨_, -, -, -, -, hcheck⟩ := ofDocument_eq_ok h
  have hasked := Node.focusTitle?_of_at? (focusCount_of_checkFocus hcheck) hat hfocus
    (Pane.title?_eq_some_iff.mpr htitle)
  obtain ⟨built, hpasses, hpanes⟩ := layout.passes_placedSteps directory window start
  obtain ⟨before, seat, after, hseats, hseat, hbefore⟩ := exists_first_seat hat htitle
  have hfirst := isFirstTitled_of_seats hseats hseat hbefore
  -- the panes of leaves come before those that nobody titled
  have hbuilt : built.panes = before.map Seat.plot ++
      seat.plot :: (after.map Seat.plot ++ layout.freeSpaces.map .bare) := by
    rw [hpanes, hseats, List.map_append, List.append_assoc]
    rfl
  have huntitled : ∀ plot ∈ before.map Seat.plot,
      (Terminal.hasTitle title ∘ Plot.terminal) plot = false := by
    intro plot hplot
    obtain ⟨other, hother, rfl⟩ := List.mem_map.mp hplot
    exact Bool.eq_false_iff.mpr fun htitled =>
      hbefore other hother (Pane.hasTitle_terminal_iff.mp htitled)
  have hended := Window.focus_of_panes hbuilt (Pane.hasTitle_terminal_iff.mpr hseat) huntitled
  rw [hasked, Option.elim_some, hended] at hpasses
  have hmem : seat ∈ layout.seats := by
    rw [hseats]
    exact List.mem_append_right _ List.mem_cons_self
  have htitled : seat.plot.titledFor = some seat.place := by
    rw [Seat.plot, Pane.title?_eq_some_iff.mpr hseat]
    rfl
  have hrun := hpasses.runPlaced_eq
  refine ⟨compile_eq_placedSteps h directory window, _, seat.place, hrun,
    runSteps_of_runPlaced hrun, hfirst, htitled, ⟨seat.pane, at?_of_mem_seats hmem, rfl⟩, ?_⟩
  show seat.plot.titledFor = some place ↔ _
  rw [htitled, Option.some_inj]
  constructor
  · rintro rfl
    exact hfirst.2
  · intro hnone
    obtain ⟨⟨leaf, hleaf, hname⟩, hleast⟩ := hfirst
    exact List.le_antisymm (hleast place pane hat htitle) (hnone seat.place leaf hleaf hname)

/-- A document with two leaves, the second an editor with focus. -/
def editorBehind (name : String) : Document := .mapping [(.string "layout", .mapping
  [(.string "type", .string "horizontal"),
    (.string "panes", .sequence [.mapping [(.string "name", .string name)],
      .mapping [(.string "name", .string "editor"), (.string "focus", .bool true)]])])]

/-- The layout of that document. -/
def editorBehindLayout (name : String) : Layout :=
  ⟨none, .plain .horizontal, [.pane (.named name), .pane (Pane.named "editor").focused]⟩

/-- Behind a leaf with another name the editor gets the focus. -/
theorem focuses_first_titled_logs :
    Layout.ofDocument (editorBehind "logs") = .ok (editorBehindLayout "logs") ∧
      ∃ w, runPlaced (.single (.bare [])) ((editorBehindLayout "logs").placedSteps none none) =
          .ok w ∧ w.active.titledFor = some [1] := by
  have hread : Layout.ofDocument (editorBehind "logs") = .ok (editorBehindLayout "logs") := rfl
  have hat : (editorBehindLayout "logs").root.at? [1] =
      some (.pane (Pane.named "editor").focused) := rfl
  have htitle : (Pane.named "editor").focused.IsTitled "editor" := ⟨rfl, by decide⟩
  have hleaves : leavesAt [] (editorBehindLayout "logs").root.placed =
      [([0], .named "logs"), ([1], (Pane.named "editor").focused)] := rfl
  obtain ⟨-, w, -, hw, -, -, -, -, hmarked⟩ :=
    focuses_first_titled hread hat rfl htitle none none (.single (.bare []))
  refine ⟨hread, w, hw, hmarked.mpr fun other leaf hleaf hname => ?_⟩
  rw [← mem_leavesAt_iff, hleaves, List.mem_cons, List.mem_singleton] at hleaf
  rcases hleaf with hfirst | hsecond
  · cases hfirst
    exact absurd hname.1 (by decide)
  · cases hsecond
    exact List.lt_irrefl _

/-- Behind a leaf with its own name it does not. -/
theorem focuses_other_leaf :
    Layout.ofDocument (editorBehind "editor") = .ok (editorBehindLayout "editor") ∧
      (editorBehindLayout "editor").root.at? [1] =
        some (.pane (Pane.named "editor").focused) ∧
      ∃ w, runPlaced (.single (.bare [])) ((editorBehindLayout "editor").placedSteps none none) =
          .ok w ∧ w.active.titledFor = some [0] :=
  ⟨rfl, rfl, _, rfl, rfl⟩

end Layout

end TmuxLayout
