import TmuxLayout.Proofs.Layout.Places

/-!
# Which space a leaf is seated in

A container cuts its space into one for each child. The leaves, from left to right,
then take the first space that is free. A container without children cuts nothing
and takes nothing, so its space stays free, and the next leaf is seated there.

- `Node.IsFull`, `Node.IsClearBefore`: no container without children, in a tree and
  left of a place among its siblings.
- `Seat`: a leaf with the space that it takes.
- `carve`, `Node.settle`: the spaces that are free, first one first, before and
  after the leaves of a tree are seated.
- `Node.map_leaf_settle`: the seats are for the leaves, in order.
- `Node.settle_spec`: a leaf is seated in its own space exactly when no space was
  left over by its siblings before it, and else in one of those.
-/

namespace TmuxLayout

/-! ## Containers without children -/

namespace Node

/-- No container of a tree is without children. -/
def IsFull (node : Node) : Prop :=
  ∀ place frame, node.at? place ≠ some (.container frame [])

/-- No container without children is among the earlier siblings of the node at a
place, or below them. -/
def IsClearBefore (node : Node) (place : Place) : Prop :=
  ∀ parent number, place = parent ++ [number] → ∀ position < number, ∀ below frame,
    node.at? (parent ++ position :: below) ≠ some (.container frame [])

theorem isFull_pane (p : Pane) : (pane p).IsFull := by
  rintro (_ | ⟨number, place⟩) frame
  · rw [at?]
    nofun
  · rw [at?]
    nofun

theorem not_isFull_container_nil (frame : Frame) : ¬ (container frame []).IsFull :=
  fun h => h [] frame rfl

/-- A container with children is full when all of them are. -/
theorem isFull_container_iff {frame : Frame} {children : List Node} (h : children ≠ []) :
    (container frame children).IsFull ↔ ∀ child ∈ children, child.IsFull := by
  constructor
  · intro hfull child hchild place frame' hat
    obtain ⟨number, hnumber⟩ := List.mem_iff_getElem?.mp hchild
    refine hfull (number :: place) frame' ?_
    rw [at?, hnumber]
    exact hat
  · rintro hall (_ | ⟨number, place⟩) frame' hat
    · rw [at?, Option.some_inj] at hat
      cases hat
      exact h rfl
    · rw [at?] at hat
      obtain ⟨child, hchild, hat⟩ := Option.bind_eq_some_iff.mp hat
      exact hall child (List.mem_of_getElem? hchild) place frame' hat

variable {frame : Frame} {children : List Node} {number : Nat}

/-- Left of a child are the children before it. -/
theorem isClearBefore_singleton_iff :
    (container frame children).IsClearBefore [number] ↔
      ∀ child ∈ children.take number, child.IsFull := by
  constructor
  · intro hclear child hchild below frame' hat
    obtain ⟨position, hposition⟩ := List.mem_iff_getElem?.mp hchild
    rw [List.getElem?_take] at hposition
    split at hposition
    · next hlt =>
      refine hclear [] number rfl position hlt below frame' ?_
      rw [List.nil_append, at?, hposition]
      exact hat
    · cases hposition
  · intro hall parent number' hplace position hlt below frame' hat
    -- a place of one number has the container itself above it
    obtain ⟨rfl, heq⟩ :=
      List.append_inj' (show [] ++ [number] = parent ++ [number'] from hplace) rfl
    cases heq
    rw [List.nil_append, at?] at hat
    obtain ⟨child, hchild, hat⟩ := Option.bind_eq_some_iff.mp hat
    refine hall child (List.mem_iff_getElem?.mpr ⟨position, ?_⟩) below frame' hat
    rw [List.getElem?_take, if_pos hlt, hchild]

/-- Left of a node further down is what is left of it in its child. -/
theorem isClearBefore_cons_iff {child : Node} (hchild : children[number]? = some child)
    {below : Place} (hbelow : below ≠ []) :
    (container frame children).IsClearBefore (number :: below) ↔ child.IsClearBefore below := by
  constructor
  · intro hclear parent number' hplace position hlt rest frame' hat
    refine hclear (number :: parent) number' (congrArg _ hplace) position hlt rest frame' ?_
    rw [List.cons_append, at?, hchild]
    exact hat
  · intro hclear parent number' hplace position hlt rest frame' hat
    cases parent with
    | nil =>
      cases hplace
      exact hbelow rfl
    | cons first parent =>
      obtain ⟨rfl, hrest⟩ := List.cons.inj hplace
      rw [List.cons_append, at?, hchild, Option.bind_some] at hat
      exact hclear parent number' hrest position hlt rest frame' hat

end Node

/-! ## Seats -/

/-- A leaf with the space that it takes. -/
structure Seat where
  place : Place
  pane : Pane
  space : Place

/-- The spaces of children, counted from `position`, of a container. -/
def childSpaces (place : Place) (position count : Nat) : List Place :=
  (List.range' position count).map fun number => place ++ [number]

/-- The free spaces when a container with children has cut the first of them. -/
def carve (place : Place) (childCount : Nat) (spaces : List Place) : List Place :=
  if childCount = 0 then spaces else childSpaces place 0 childCount ++ spaces.tail

mutual

/-- The seats of the leaves of a node at a place, and the spaces that are free
behind it. -/
def Node.settle (place : Place) : Node → (spaces : List Place) → List Seat × List Place
  | .pane p, spaces => ([⟨place, p, spaces.headD []⟩], spaces.tail)
  | .container _ children, spaces =>
    settleRow place 0 children (carve place children.length spaces)

/-- The seats of the leaves of children, counted from `position`, of the container
at a place, and the spaces that are free behind them. -/
def settleRow (place : Place) (position : Nat) :
    List Node → (spaces : List Place) → List Seat × List Place
  | [], spaces => ([], spaces)
  | node :: nodes, spaces =>
    let here := node.settle (place ++ [position]) spaces
    let others := settleRow place (position + 1) nodes here.2
    (here.1 ++ others.1, others.2)

end

theorem childSpaces_succ (place : Place) (position count : Nat) :
    childSpaces place position (count + 1) =
      (place ++ [position]) :: childSpaces place (position + 1) count := rfl

/-- There is a free space for each child of a container that was cut. -/
theorem length_le_length_carve (place : Place) (childCount : Nat) (spaces : List Place) :
    childCount ≤ (carve place childCount spaces).length := by
  rw [carve]
  split
  · omega
  · simp [childSpaces]

/-! ## Seats are for leaves -/

/-- The leaf of a seat, with its place. -/
def Seat.leaf (seat : Seat) : Place × Pane := (seat.place, seat.pane)

/-- The leaves among nodes, with their places behind a place. -/
def leavesAt (place : Place) (nodes : List (Place × Node)) : List (Place × Pane) :=
  nodes.filterMap fun (below, node) =>
    match node with
    | .pane p => some (place ++ below, p)
    | .container _ _ => none

theorem leavesAt_append (place : Place) (nodes others : List (Place × Node)) :
    leavesAt place (nodes ++ others) = leavesAt place nodes ++ leavesAt place others :=
  List.filterMap_append

/-- Below a child, all places begin with its number. -/
theorem leavesAt_under (place : Place) (position : Nat) (nodes : List (Place × Node)) :
    leavesAt place (nodes.map fun (below, node) => (position :: below, node)) =
      leavesAt (place ++ [position]) nodes := by
  rw [leavesAt, List.filterMap_map, leavesAt]
  congr 1
  funext ⟨below, node⟩
  cases node with
  | pane p => simp
  | container frame children => rfl

mutual

/-- All leaves of a node find a seat, in order. -/
theorem Node.map_leaf_settle (place : Place) (node : Node) (spaces : List Place) :
    (node.settle place spaces).1.map Seat.leaf = leavesAt place node.placed := by
  cases node with
  | pane p => simp [Node.settle, Node.placed, leavesAt, Seat.leaf]
  | container frame children =>
    rw [Node.settle, map_leaf_settleRow place 0 children, Node.placed]
    rfl

theorem map_leaf_settleRow (place : Place) (position : Nat) (nodes : List Node)
    (spaces : List Place) :
    (settleRow place position nodes spaces).1.map Seat.leaf =
      leavesAt place (Node.placedFrom position nodes) := by
  cases nodes with
  | nil => rfl
  | cons node nodes =>
    rw [settleRow]
    dsimp only
    rw [List.map_append, Node.map_leaf_settle (place ++ [position]) node spaces,
      map_leaf_settleRow place (position + 1) nodes, Node.placedFrom, leavesAt_append,
      leavesAt_under]

end

/-! ## Spaces left over -/

/-- A space is that of a child before `position` of a container, or is below it. -/
def IsPassed (place : Place) (position : Nat) (space : Place) : Prop :=
  ∃ number < position, place ++ [number] <+: space

theorem IsPassed.ne {place space : Place} {position : Nat} (h : IsPassed place position space) :
    space ≠ place ++ [position] := by
  rintro rfl
  obtain ⟨number, hlt, hprefix⟩ := h
  obtain ⟨rest, heq⟩ := hprefix
  rw [List.append_assoc, List.append_cancel_left_eq, List.singleton_append, List.cons.injEq] at heq
  omega

theorem IsPassed.mono {place space : Place} {position position' : Nat}
    (h : IsPassed place position space) (hle : position ≤ position') :
    IsPassed place position' space := by
  obtain ⟨number, hlt, hprefix⟩ := h
  exact ⟨number, Nat.lt_of_lt_of_le hlt hle, hprefix⟩

/-- A space is that of an earlier sibling of the node at a place, or is below it. -/
def IsBeside (place space : Place) : Prop :=
  ∃ parent number, place = parent ++ [number] ∧ IsPassed parent number space

/-- What a node at a place leaves of the spaces `space :: rest`, and in which spaces
its leaves are seated. -/
structure Node.Settles (place : Place) (node : Node) (space : Place) (rest : List Place) :
    Prop where
  left : ∃ own, (node.settle place (space :: rest)).2 = own ++ rest ∧
    (own = [] ↔ node.IsFull) ∧ ∀ other ∈ own, other = space ∨ place <+: other
  seated : ∀ seat ∈ (node.settle place (space :: rest)).1, ∃ below,
    seat.place = place ++ below ∧ (below = [] → seat.space = space) ∧
      (below ≠ [] → (seat.space = seat.place ↔ node.IsClearBefore below))
  beside : ∀ seat ∈ (node.settle place (space :: rest)).1,
    seat.place = place ∨ seat.space = seat.place ∨ IsBeside seat.place seat.space

/-- The same for children, counted from `position`, when `passed` was left over
before them. -/
structure RowSettles (place : Place) (position : Nat) (nodes : List Node)
    (passed rest : List Place) : Prop where
  left : ∃ own, (settleRow place position nodes
      (passed ++ childSpaces place position nodes.length ++ rest)).2 = own ++ rest ∧
    (own = [] ↔ passed = [] ∧ ∀ node ∈ nodes, node.IsFull) ∧
    ∀ other ∈ own, place <+: other
  seated : ∀ seat ∈ (settleRow place position nodes
      (passed ++ childSpaces place position nodes.length ++ rest)).1, ∃ number child below,
    nodes[number]? = some child ∧ seat.place = place ++ (position + number) :: below ∧
      (below = [] → (seat.space = seat.place ↔
        passed = [] ∧ ∀ node ∈ nodes.take number, node.IsFull)) ∧
      (below ≠ [] → (seat.space = seat.place ↔ child.IsClearBefore below))
  beside : ∀ seat ∈ (settleRow place position nodes
      (passed ++ childSpaces place position nodes.length ++ rest)).1,
    seat.space = seat.place ∨ IsBeside seat.place seat.space

section Passed

variable {place : Place} {position : Nat} {passed : List Place}

/-- The first free space of a row is the first one left over, or else the own one of
the child. -/
theorem exists_cons_of_passed (h : ∀ other ∈ passed, IsPassed place position other) :
    ∃ space surplus, passed ++ [place ++ [position]] = space :: surplus ∧
      (space = place ++ [position] ↔ passed = []) ∧ (surplus = [] ↔ passed = []) ∧
      ∀ other ∈ space :: surplus, IsPassed place position other ∨ other = place ++ [position] := by
  have hfrom : ∀ other ∈ passed ++ [place ++ [position]],
      IsPassed place position other ∨ other = place ++ [position] := by
    intro other hother
    rw [List.mem_append, List.mem_singleton] at hother
    exact hother.imp_left (h other)
  cases passed with
  | nil => exact ⟨_, [], rfl, by simp, by simp, hfrom⟩
  | cons space passed =>
    refine ⟨space, passed ++ [place ++ [position]], rfl, ?_, by simp, hfrom⟩
    have hne := (h space List.mem_cons_self).ne
    simp [hne]

/-- What a child leaves over has been passed by the next one. -/
theorem isPassed_of_left {space : Place} {own surplus : List Place}
    (hfrom : ∀ other ∈ space :: surplus,
      IsPassed place position other ∨ other = place ++ [position])
    (hown : ∀ other ∈ own, other = space ∨ place ++ [position] <+: other) :
    ∀ other ∈ own ++ surplus, IsPassed place (position + 1) other := by
  have hfree : ∀ other ∈ space :: surplus, IsPassed place (position + 1) other := by
    intro other hother
    rcases hfrom other hother with hpassed | rfl
    · exact hpassed.mono (Nat.le_succ position)
    · exact ⟨position, Nat.lt_succ_self position, List.prefix_refl _⟩
  intro other hother
  rcases List.mem_append.mp hother with hother | hother
  · rcases hown other hother with rfl | hprefix
    · exact hfree _ List.mem_cons_self
    · exact ⟨position, Nat.lt_succ_self position, hprefix⟩
  · exact hfree other (List.mem_cons_of_mem _ hother)

end Passed

mutual

/-- **Spaces are left over by containers without children alone.** -/
theorem Node.settle_spec (place : Place) (node : Node) (space : Place) (rest : List Place) :
    Node.Settles place node space rest := by
  cases node with
  | pane p =>
    refine ⟨⟨[], rfl, by simp [Node.isFull_pane], nofun⟩, fun seat hseat => ?_,
      fun seat hseat => ?_⟩
    · rw [Node.settle, List.mem_singleton] at hseat
      subst hseat
      exact ⟨[], by simp, fun _ => rfl, fun hne => absurd rfl hne⟩
    · rw [Node.settle, List.mem_singleton] at hseat
      exact .inl (by rw [hseat])
  | container frame children =>
    by_cases hempty : children = []
    · -- nothing is cut, and nothing is taken
      subst hempty
      refine ⟨⟨[space], rfl, ?_, fun other hother => ?_⟩, ?_, ?_⟩
      · simp [Node.not_isFull_container_nil]
      · exact .inl (List.mem_singleton.mp hother)
      · rw [Node.settle, settleRow]
        nofun
      · rw [Node.settle, settleRow]
        nofun
    · have hspaces : carve place children.length (space :: rest) =
          [] ++ childSpaces place 0 children.length ++ rest := by
        rw [carve, if_neg (by simpa using hempty)]
        rfl
      obtain ⟨⟨own, hleft, hown, hbelow⟩, hseated, hbeside⟩ :=
        settleRow_spec place 0 children rest (List.forall_mem_nil _)
      rw [← hspaces] at hleft hseated hbeside
      refine ⟨⟨own, ?_, ?_, fun other hother => .inr (hbelow other hother)⟩,
        fun seat hseat => ?_, fun seat hseat => .inr (hbeside seat hseat)⟩
      · rw [Node.settle]
        exact hleft
      · rw [hown, Node.isFull_container_iff hempty]
        simp
      · rw [Node.settle] at hseat
        obtain ⟨number, child, below, hchild, hplace, hhere, hdeep⟩ := hseated seat hseat
        refine ⟨number :: below, by rw [hplace, Nat.zero_add], nofun, fun _ => ?_⟩
        by_cases hbelow : below = []
        · rw [hhere hbelow, hbelow, Node.isClearBefore_singleton_iff]
          simp
        · rw [hdeep hbelow, Node.isClearBefore_cons_iff hchild hbelow]

/-- The spaces left over stand before those of the children that are not seated
yet, so the next leaf takes its own space only when there are none. -/
theorem settleRow_spec (place : Place) (position : Nat) (nodes : List Node) {passed : List Place}
    (rest : List Place) (hpassed : ∀ other ∈ passed, IsPassed place position other) :
    RowSettles place position nodes passed rest := by
  cases nodes with
  | nil =>
    refine ⟨⟨passed, ?_, by simp, fun other hother => ?_⟩, nofun, nofun⟩
    · rw [settleRow]
      simp [childSpaces]
    · obtain ⟨number, -, hprefix⟩ := hpassed other hother
      exact (List.prefix_append _ _).trans hprefix
  | cons node nodes =>
    -- the first child takes the first free space, which is its own only if none was passed
    obtain ⟨space, surplus, hcons, hspace, hsurplus, hfrom⟩ := exists_cons_of_passed hpassed
    have hspaces : passed ++ childSpaces place position (node :: nodes).length ++ rest =
        space :: (surplus ++ childSpaces place (position + 1) nodes.length ++ rest) := by
      rw [List.length_cons, childSpaces_succ, List.append_cons passed, hcons]
      rfl
    obtain ⟨⟨own, hleft, hown, hbelow⟩, hseated, hbeside⟩ := Node.settle_spec
      (place ++ [position]) node space
      (surplus ++ childSpaces place (position + 1) nodes.length ++ rest)
    -- what is passed on is what the child left over and what it was handed
    have hempty : own ++ surplus = [] ↔ passed = [] ∧ node.IsFull := by
      rw [List.append_eq_nil_iff, hown, hsurplus, and_comm]
    obtain ⟨⟨last, hlast, hlastnil, hlastbelow⟩, hrest, hrestbeside⟩ :=
      settleRow_spec place (position + 1) nodes rest (isPassed_of_left hfrom hbelow)
    rw [List.append_assoc own, List.append_assoc own, ← hleft] at hlast hrest hrestbeside
    refine ⟨⟨last, ?_, ?_, hlastbelow⟩, fun seat hseat => ?_, fun seat hseat => ?_⟩
    · rw [hspaces, settleRow]
      exact hlast
    · rw [hlastnil, hempty, List.forall_mem_cons, and_assoc]
    · rw [hspaces, settleRow, List.mem_append] at hseat
      rcases hseat with hseat | hseat
      · obtain ⟨below, hplace, hhere, hdeep⟩ := hseated seat hseat
        refine ⟨0, node, below, rfl, ?_, fun hnil => ?_, hdeep⟩
        · rw [hplace, List.append_assoc]
          rfl
        · rw [hhere hnil, hplace, hnil, List.append_nil, hspace]
          simp
      · obtain ⟨number, child, below, hchild, hplace, hhere, hdeep⟩ := hrest seat hseat
        refine ⟨number + 1, child, below, hchild, ?_, fun hnil => ?_, hdeep⟩
        · rw [hplace, Nat.add_assoc, Nat.add_comm 1]
        · rw [hhere hnil, hempty, List.take_succ_cons, List.forall_mem_cons, and_assoc]
    · rw [hspaces, settleRow, List.mem_append] at hseat
      rcases hseat with hseat | hseat
      · rcases hbeside seat hseat with hplace | hor
        · -- a leaf right here takes the first free space
          obtain ⟨below, hbelow, hhere, -⟩ := hseated seat hseat
          have hspace' := hhere (List.self_eq_append_right.mp (hplace.symm.trans hbelow))
          rw [hspace', hplace]
          exact (hfrom space List.mem_cons_self).symm.imp_right fun hpassed =>
            ⟨place, position, rfl, hpassed⟩
        · exact hor
      · exact hrestbeside seat hseat

end

end TmuxLayout
