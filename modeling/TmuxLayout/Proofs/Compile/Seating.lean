import TmuxLayout.Proofs.Compile.Panes
import TmuxLayout.Proofs.Compile.PlacedSteps
import TmuxLayout.Proofs.Compile.Places
import TmuxLayout.Proofs.Layout.Reading
import TmuxLayout.Proofs.Layout.Seats

/-!
# Leaves and the spaces of their panes

Running the commands of a layout seats its leaves: the panes are the leaves in their
seats, and behind them the spaces that are free. A leaf gets its title and its
command in the pane of its own space, unless a container without children left one
over among the siblings before it.

- `Seat.plot`: the pane of a leaf in its seat.
- `Attends`: titles and commands of leaves come to the panes of their seats.
- `Node.passes_placedSteps`, `passes_placedChildSteps`: what a node and a row of
  nodes do to a window with free spaces.
- `Layout.passes_placedBuildSteps`, `Layout.passes_placedSteps`: what a layout does
  to any window.
- `Layout.configures_in_own_space_iff`: all of it together.
-/

namespace TmuxLayout

/-- The pane of a leaf in its seat. -/
def Seat.plot (seat : Seat) : Plot :=
  ⟨seat.pane.terminal, seat.space, seat.pane.title?.map fun _ => seat.place⟩

/-- A title or a command comes to the pane of a seat of its leaf. -/
def Attends (seats : List Seat) (w : Window Plot) (placed : PlacedStep) : Prop :=
  placed.step.configures = true →
    ∃ seat ∈ seats, seat.place = placed.place ∧ seat.space = w.active.space

theorem Attends.mono {seats more : List Seat} (hsub : ∀ seat ∈ seats, seat ∈ more)
    (w : Window Plot) (placed : PlacedStep) (h : Attends seats w placed) :
    Attends more w placed := by
  intro hconfigures
  obtain ⟨seat, hseat, hplace, hspace⟩ := h hconfigures
  exact ⟨seat, hsub seat hseat, hplace, hspace⟩

theorem attends_of_not_configures {seats : List Seat} {w : Window Plot} {placed : PlacedStep}
    (h : placed.step.configures = false) : Attends seats w placed :=
  fun hconfigures => absurd (h.symm.trans hconfigures) Bool.false_ne_true

/-! ## Leaves -/

/-- Selecting the first free pane. -/
theorem run_selectPane_placed {w : Window Plot} {done after : List Plot} {space : Place}
    (h : w.panes = done ++ .bare space :: after) (placed : PlacedStep)
    (hcommand : placed.step.command = .selectPane (done.length + 1)) :
    placed.run w = .ok ⟨done, .bare (placed.spaceAfter space), after⟩ := by
  rw [PlacedStep.run, hcommand, PlacedStep.obey, Window.select?_of_panes h]
  rfl

/-- The commands for a leaf fill the first free pane. -/
theorem passes_paneSteps {w : Window Plot} {done : List Plot} {space : Place}
    {rest : List Place} (place : Place) (pane : Pane)
    (h : w.panes = done ++ (space :: rest).map .bare) :
    ∃ v, Passes (Attends [⟨place, pane, space⟩]) w
        ((paneSteps pane (done.length + 1)).map (.mk place 0)) v ∧
      v.panes = done ++ [(⟨place, pane, space⟩ : Seat).plot] ++ rest.map .bare := by
  have hhere : ∀ u : Window Plot, u.active.space = space → ∀ step,
      Attends [⟨place, pane, space⟩] u ⟨place, 0, step⟩ :=
    fun u hu _ _ => ⟨_, List.mem_singleton_self _, rfl, hu.symm⟩
  -- both lines may be missing, so the pane is described by what they were made from
  have hrest : ∀ title? keys? : Option String,
      Passes (Attends [⟨place, pane, space⟩]) ⟨done, .bare space, rest.map .bare⟩
        (((title?.map fun title => (⟨.setTitle title, .setTitle title⟩ : Step)).toList ++
          (keys?.map fun keys => (⟨.sendKeys keys, .run keys⟩ : Step)).toList).map (.mk place 0))
        ⟨done, ⟨⟨title?, keys?.toList⟩, space, title?.map fun _ => place⟩, rest.map .bare⟩ := by
    intro title? keys?
    cases title? with
    | none =>
      cases keys? with
      | none => exact .nil _
      | some keys => exact .cons (hhere _ rfl _) rfl (.nil _)
    | some title =>
      cases keys? with
      | none => exact .cons (hhere _ rfl _) rfl (.nil _)
      | some keys => exact .cons (hhere _ rfl _) rfl (.cons (hhere _ rfl _) rfl (.nil _))
  refine ⟨_, .cons (attends_of_not_configures rfl) (run_selectPane_placed h _ rfl)
    (hrest pane.title? pane.startupCommand?), ?_⟩
  rw [Seat.plot, Pane.terminal_eq, List.append_assoc]
  rfl

/-! ## Containers -/

/-- Splits put the panes of further children behind that of the first. -/
theorem passes_splitWindows {seats : List Seat} (place : Place) (childCount : Nat)
    (direction : Direction) (directory : String) (percent : Nat → Float) (numbers : List Nat)
    (w : Window Plot) :
    ∃ v, Passes (Attends seats) w (numbers.map fun i => ⟨place, childCount,
        ⟨.splitWindow direction (percent i) directory, .split direction (i + 1)⟩⟩) v ∧
      v.panes = w.before ++ w.active ::
        (numbers.map (fun i => .bare (place ++ [i + 1])) ++ w.after) := by
  induction numbers generalizing w with
  | nil => exact ⟨w, .nil w, rfl⟩
  | cons i numbers ih =>
    -- the next split goes on from the pane that this one made
    obtain ⟨v, hpasses, hpanes⟩ := ih ⟨w.before ++ [w.active], .bare (place ++ [i + 1]), w.after⟩
    refine ⟨v, .cons (attends_of_not_configures rfl) rfl hpasses, ?_⟩
    rw [hpanes, List.append_assoc]
    rfl

/-- The splits of a container cut the space of its first pane. -/
theorem passes_splits {seats : List Seat} (directory : String) (place : Place) (frame : Frame)
    (childCount : Nat) (done : List Plot) (space : Place) (rest : List Place) :
    ∃ v, Passes (Attends seats)
        ⟨done, .bare (if childCount = 0 then space else place ++ [0]), rest.map .bare⟩
        ((splits directory frame childCount).map (.mk place childCount)) v ∧
      v.panes = done ++ (carve place childCount (space :: rest)).map .bare := by
  rw [splits_eq_splitBlock, Frame.splitBlock, List.map_map]
  obtain ⟨v, hpasses, hpanes⟩ := passes_splitWindows place childCount frame.direction directory
    (fun i => roundHalfUp (newPaneShare (weightsOf frame.ratio childCount) (i + 1)))
    (List.range (childCount - 1))
    ⟨done, .bare (if childCount = 0 then space else place ++ [0]), rest.map .bare⟩
  refine ⟨v, hpasses, hpanes.trans ?_⟩
  cases childCount with
  | zero => rfl
  | succ count =>
    rw [carve, if_neg (Nat.succ_ne_zero count), if_neg (Nat.succ_ne_zero count), childSpaces_succ,
      childSpaces, List.range'_eq_map_range, Nat.add_sub_cancel]
    simp [Nat.add_comm]

/-! ## Trees -/

theorem length_settle (place : Place) (node : Node) (spaces : List Place) :
    (node.settle place spaces).1.length = node.paneCount := by
  have hlength := congrArg List.length (node.map_leaf_settle place spaces)
  rw [List.length_map, leavesAt, List.length_filterMap_eq_countP] at hlength
  rw [hlength, ← node.countP_isPane_placed]
  refine List.countP_congr ?_
  rintro ⟨below, other⟩ -
  cases other with
  | pane p => rfl
  | container frame children => rfl

mutual

/-- The commands for a node seat its leaves, and leave the spaces that are free
behind them. -/
theorem Node.passes_placedSteps (directory : String) (place : Place) (node : Node)
    {w : Window Plot} {done : List Plot} {space : Place} {rest : List Place}
    (h : w.panes = done ++ (space :: rest).map .bare) :
    ∃ v, Passes (Attends (node.settle place (space :: rest)).1) w
        (node.placedSteps directory place (done.length + 1)) v ∧
      v.panes = done ++ (node.settle place (space :: rest)).1.map Seat.plot ++
        (node.settle place (space :: rest)).2.map .bare := by
  cases node with
  | pane p => exact passes_paneSteps place p h
  | container frame children =>
    -- the first free pane is entered and cut, and the children are seated from it on
    obtain ⟨u, hsplits, hu⟩ :=
      passes_splits directory place frame children.length done space rest
    obtain ⟨v, hrow, hv⟩ := passes_placedChildSteps directory place 0 children
      (length_le_length_carve place children.length _) hu
    refine ⟨v, ?_, hv⟩
    exact (Passes.cons (attends_of_not_configures rfl) (run_selectPane_placed h _ rfl)
      hsplits).append hrow

/-- The commands for a row of nodes need a free space for each of them. -/
theorem passes_placedChildSteps (directory : String) (place : Place) (position : Nat)
    (nodes : List Node) {w : Window Plot} {done : List Plot} {spaces : List Place}
    (hcount : nodes.length ≤ spaces.length) (h : w.panes = done ++ spaces.map .bare) :
    ∃ v, Passes (Attends (settleRow place position nodes spaces).1) w
        (placedChildSteps directory place position nodes (done.length + 1)) v ∧
      v.panes = done ++ (settleRow place position nodes spaces).1.map Seat.plot ++
        (settleRow place position nodes spaces).2.map .bare := by
  cases nodes with
  | nil =>
    refine ⟨w, .nil w, ?_⟩
    rw [settleRow, List.map_nil, List.append_nil]
    exact h
  | cons node nodes =>
    obtain ⟨space, rest, rfl⟩ : ∃ space rest, spaces = space :: rest :=
      List.exists_cons_of_length_pos (Nat.lt_of_lt_of_le (Nat.succ_pos _) hcount)
    obtain ⟨u, hfirst, hu⟩ := Node.passes_placedSteps directory (place ++ [position]) node h
    -- the first node takes one free space at most
    obtain ⟨own, hleft, -, -⟩ := (node.settle_spec (place ++ [position]) space rest).left
    have hrest : nodes.length ≤
        (node.settle (place ++ [position]) (space :: rest)).2.length := by
      rw [hleft, List.length_append]
      rw [List.length_cons, List.length_cons] at hcount
      omega
    obtain ⟨v, hrow, hv⟩ := passes_placedChildSteps directory place (position + 1) nodes hrest hu
    rw [List.length_append, List.length_map, length_settle, Nat.add_right_comm] at hrow
    refine ⟨v, ?_, ?_⟩
    · rw [placedChildSteps, settleRow]
      exact (hfirst.imp (Attends.mono fun seat => List.mem_append_left _)).append
        (hrow.imp (Attends.mono fun seat => List.mem_append_right _))
    · rw [hv, settleRow, List.map_append, List.append_assoc done, List.append_assoc done]

end

/-! ## Layouts -/

namespace Layout

/-- The seats of the leaves of a layout: the new window holds the space of the
root. -/
def seats (layout : Layout) : List Seat :=
  (layout.root.settle [] [[]]).1

/-- The spaces of a layout that no leaf takes. -/
def freeSpaces (layout : Layout) : List Place :=
  (layout.root.settle [] [[]]).2

/-- The commands that build a layout seat its leaves in a new window. -/
theorem passes_placedBuildSteps (layout : Layout) (directory window : Option String)
    (start : Window Plot) :
    ∃ v, Passes (Attends layout.seats) start (layout.placedBuildSteps directory window) v ∧
      v.panes = layout.seats.map Seat.plot ++ layout.freeSpaces.map .bare := by
  obtain ⟨u, hsplits, hu⟩ := passes_splits (directory.getD currentPath) [] layout.frame
    layout.children.length [] [] []
  obtain ⟨v, hrow, hv⟩ := passes_placedChildSteps (directory.getD currentPath) [] 0
    layout.children (length_le_length_carve [] layout.children.length _) hu
  refine ⟨v, ?_, hv⟩
  -- the new window is entered as it is made, so the root is never selected
  have hwindow : (⟨[], layout.children.length, ⟨.newWindow window (directory.getD currentPath),
      .createWindow⟩⟩ : PlacedStep).run start =
      .ok ⟨[], .bare (if layout.children.length = 0 then [] else [] ++ [0]), []⟩ := rfl
  exact (Passes.cons (attends_of_not_configures rfl) hwindow hsplits).append hrow

/-- What the command for focus does, if there is one. -/
theorem passes_focusCommands (layout : Layout) (seats : List Seat) (w : Window Plot) :
    Passes (Attends seats) w (layout.focusCommands.map (.mk [] layout.children.length))
      (layout.root.focusTitle?.elim w fun title =>
        w.focus (Terminal.hasTitle title ∘ Plot.terminal)) := by
  rw [focusCommands]
  cases layout.root.focusTitle? with
  | none => exact .nil w
  | some title => exact .cons (attends_of_not_configures rfl) rfl (.nil _)

/-- The commands of a layout seat its leaves, and then make the pane for focus
active. -/
theorem passes_placedSteps (layout : Layout) (directory window : Option String)
    (start : Window Plot) :
    ∃ built, Passes (Attends layout.seats) start (layout.placedSteps directory window)
        (layout.root.focusTitle?.elim built fun title =>
          built.focus (Terminal.hasTitle title ∘ Plot.terminal)) ∧
      built.panes = layout.seats.map Seat.plot ++ layout.freeSpaces.map .bare := by
  obtain ⟨built, hbuild, hpanes⟩ := layout.passes_placedBuildSteps directory window start
  exact ⟨built, hbuild.append (layout.passes_focusCommands layout.seats built), hpanes⟩

/-- The seats of a layout are for its leaves. -/
theorem map_leaf_seats (layout : Layout) :
    layout.seats.map Seat.leaf = leavesAt [] layout.root.placed :=
  layout.root.map_leaf_settle [] [[]]

theorem mem_leavesAt_iff {layout : Layout} {place : Place} {pane : Pane} :
    (place, pane) ∈ leavesAt [] layout.root.placed ↔
      layout.root.at? place = some (.pane pane) := by
  rw [← Node.mem_placed_iff, leavesAt, List.mem_filterMap]
  constructor
  · rintro ⟨⟨below, node⟩, hmem, heq⟩
    cases node with
    | pane p =>
      cases heq
      exact hmem
    | container frame children => cases heq
  · intro hmem
    exact ⟨_, hmem, rfl⟩

theorem at?_of_mem_seats {layout : Layout} {seat : Seat} (h : seat ∈ layout.seats) :
    layout.root.at? seat.place = some (.pane seat.pane) := by
  rw [← mem_leavesAt_iff, ← map_leaf_seats]
  exact List.mem_map_of_mem h

theorem place_ne_nil {layout : Layout} {seat : Seat} (h : seat ∈ layout.seats) :
    seat.place ≠ [] := by
  intro hplace
  have hat := at?_of_mem_seats h
  rw [hplace] at hat
  cases hat

/-- A leaf is seated in its own space exactly when its siblings before it left none
over. -/
theorem space_eq_place_iff {layout : Layout} {seat : Seat} (h : seat ∈ layout.seats) :
    seat.space = seat.place ↔ layout.root.IsClearBefore seat.place := by
  obtain ⟨below, hplace, -, hdeep⟩ := (layout.root.settle_spec [] [] []).seated seat h
  have hne := place_ne_nil h
  rw [List.nil_append] at hplace
  rw [hplace] at hne hdeep ⊢
  exact hdeep hne

/-- A leaf is seated in its own space, or in one that a sibling before it left
over. -/
theorem space_eq_place_or_isBeside {layout : Layout} {seat : Seat} (h : seat ∈ layout.seats) :
    seat.space = seat.place ∨ IsBeside seat.place seat.space :=
  ((layout.root.settle_spec [] [] []).beside seat h).resolve_left (place_ne_nil h)

theorem compile_eq_placedSteps {document : Document} {layout : Layout}
    (h : Layout.ofDocument document = .ok layout) (directory window : Option String) :
    layout.compile directory window =
      .ok ((layout.placedSteps directory window).map PlacedStep.step) := by
  rw [compile_of_checkRatios directory window (checkRatios_of_ofDocument h),
    map_step_placedSteps]

/-- **A leaf is configured in its own space, unless a container without children
comes before it.** For a layout that was read, the commands are those listed with
their nodes, and running them fails nowhere. Each title and each command of a leaf is
sent. When one is sent, the active pane holds the space of that very leaf exactly
when no container without children is among the earlier siblings of the leaf, or
below them. Else it holds the space of such a sibling, or one below it. -/
theorem configures_in_own_space_iff {document : Document} {layout : Layout}
    (h : Layout.ofDocument document = .ok layout) (directory window : Option String)
    (start : Window Plot) :
    layout.compile directory window =
        .ok ((layout.placedSteps directory window).map PlacedStep.step) ∧
      (∃ w, runPlaced start (layout.placedSteps directory window) = .ok w ∧
        runSteps (start.map Plot.terminal)
          ((layout.placedSteps directory window).map PlacedStep.step) =
            .ok (w.map Plot.terminal)) ∧
      (∀ place pane, layout.root.at? place = some (.pane pane) →
        ∀ step ∈ pane.configuration, ⟨place, 0, step⟩ ∈ layout.placedSteps directory window) ∧
      ∀ before placed after, layout.placedSteps directory window = before ++ placed :: after →
        placed.step.configures = true → ∃ pane w,
          layout.root.at? placed.place = some (.pane pane) ∧ placed.step ∈ pane.configuration ∧
          runPlaced start before = .ok w ∧
          (w.active.space = placed.place ↔ layout.root.IsClearBefore placed.place) ∧
          (w.active.space = placed.place ∨ IsBeside placed.place w.active.space) := by
  obtain ⟨built, hpasses, -⟩ := layout.passes_placedSteps directory window start
  have hrun := hpasses.runPlaced_eq
  refine ⟨compile_eq_placedSteps h directory window, ⟨_, hrun, runSteps_of_runPlaced hrun⟩,
    fun place pane hat step => mem_placedSteps directory window hat, ?_⟩
  intro before placed after hsteps hconfigures
  have hmem : placed ∈ layout.placedSteps directory window := by
    rw [hsteps]
    exact List.mem_append_right _ List.mem_cons_self
  obtain ⟨pane, hat, hstep⟩ := exists_of_mem_placedSteps hmem hconfigures
  rw [hsteps] at hpasses
  obtain ⟨w, hw, hattends⟩ := hpasses.exists_runPlaced
  obtain ⟨seat, hseat, hplace, hspace⟩ := hattends hconfigures
  refine ⟨pane, w, hat, hstep, hw, ?_⟩
  rw [← hspace, ← hplace]
  exact ⟨space_eq_place_iff hseat, space_eq_place_or_isBeside hseat⟩

/-- A document with a container without children between two leaves. -/
def gapDocument : Document := .mapping [(.string "layout", .mapping
  [(.string "type", .string "horizontal"),
    (.string "panes", .sequence [.mapping [(.string "name", .string "first")],
      .mapping [(.string "type", .string "vertical"), (.string "panes", .sequence [])],
      .mapping [(.string "name", .string "after")]])])]

/-- The layout of that document. -/
def gapLayout : Layout :=
  ⟨none, .plain .horizontal,
    [.pane (.named "first"), .container (.plain .vertical) [], .pane (.named "after")]⟩

/-- The leaf before the container without children gets its title in its own
space. -/
theorem configures_in_own_space_first :
    Layout.ofDocument gapDocument = .ok gapLayout ∧
      ∃ before after w, gapLayout.placedSteps none none =
          before ++ ⟨[0], 0, ⟨.setTitle "first", .setTitle "first"⟩⟩ :: after ∧
        runPlaced (.single (.bare [])) before = .ok w ∧ w.active.space = [0] := by
  have hread : Layout.ofDocument gapDocument = .ok gapLayout := rfl
  obtain ⟨-, -, hsent, hown⟩ :=
    configures_in_own_space_iff hread none none (.single (.bare []))
  have htitle : ⟨.setTitle "first", .setTitle "first"⟩ ∈ (Pane.named "first").configuration := by
    simp [Pane.configuration, Pane.named]
  obtain ⟨before, after, hsteps⟩ := List.append_of_mem (hsent [0] (.named "first") rfl _ htitle)
  obtain ⟨-, w, -, -, hw, hspace, -⟩ :=
    hown before _ after hsteps (configures_of_mem_configuration htitle)
  refine ⟨hread, before, after, w, hsteps, hw, hspace.mpr ?_⟩
  exact Node.isClearBefore_singleton_iff.mpr (List.forall_mem_nil _)

/-- The leaf behind it gets its title in the space that was cut for the container. -/
theorem configures_in_space_of_sibling :
    Layout.ofDocument gapDocument = .ok gapLayout ∧
      ∃ before after w, gapLayout.placedSteps none none =
          before ++ ⟨[2], 0, ⟨.setTitle "after", .setTitle "after"⟩⟩ :: after ∧
        runPlaced (.single (.bare [])) before = .ok w ∧ w.active.space = [1] := by
  refine ⟨rfl, (gapLayout.placedSteps none none).take 7, [], ?_⟩
  exact ⟨_, rfl, rfl, rfl⟩

end Layout

end TmuxLayout
