import TmuxLayout.Proofs.Except
import TmuxLayout.Proofs.Layout.Children

/-!
# What is read is valid (SPEC_FULL.md §4.1)

A ratio is checked against the number of items in a document, and again against
the number of children in a tree. Reading turns every item into a child and every
entry of a ratio into a weight, so a tree that was read passes its own check.

- `checkRatio_of_readFrame`: the frame of one container fits its items.
- `forall_of_nodesOf`: what holds of every node that an item gives holds of all
  nodes of a row, and there are as many nodes as items.
- `checkRatios_of_nodeOf`: a tree that was read passes the check of ratios.
- `Layout.validate_of_ofDocument`: a layout that was read is valid.
-/

namespace TmuxLayout

/-! ## One container -/

theorem length_of_readWeights {path : String} {items : List Document} {weights : List Float}
    (h : readWeights path items = .ok weights) : weights.length = items.length := by
  induction items generalizing weights with
  | nil =>
    cases h
    rfl
  | cons item items ih =>
    rw [readWeights] at h
    split at h
    · obtain ⟨rest, hrest, rfl⟩ := Except.map_eq_ok_iff.mp h
      rw [List.length_cons, List.length_cons, ih hrest]
    · cases h

/-- A ratio that is read has a weight for each child. -/
theorem length_of_readRatio {entries : Entries} {childCount : Nat} {path : String}
    {weights : List Float} (h : readRatio entries childCount path = .ok (some weights)) :
    weights.length = childCount := by
  rw [readRatio] at h
  split at h
  · cases h
  · cases h
  · split at h
    · cases h
    · next hlength =>
      obtain ⟨_, hweights, heq⟩ := Except.map_eq_ok_iff.mp h
      cases heq
      rw [length_of_readWeights hweights, Decidable.not_not.mp hlength]
  · cases h

/-- A frame that is read comes with items, and fits them. -/
theorem checkRatio_of_readFrame {entries : Entries} {path : String} {frame : Frame}
    (h : readFrame entries path = .ok frame) :
    ∃ items, panesIn? entries = some items ∧
      ∀ path', checkRatio frame items.length path' = .ok () := by
  rw [readFrame] at h
  obtain ⟨direction, -, h⟩ := Except.bind_eq_ok_iff.mp h
  split at h
  · cases h
  · next items hitems =>
    obtain ⟨ratio, hratio, h⟩ := Except.bind_eq_ok_iff.mp h
    cases h
    refine ⟨items, hitems, fun path' => ?_⟩
    cases ratio with
    | none => rfl
    | some weights =>
      have hlength := length_of_readRatio hratio
      rw [checkRatio]
      exact if_neg (Decidable.not_not.mpr hlength)

/-! ## Trees -/

/-- There is a node for each item, and what holds of every node that one of the
items gives holds of all of them. -/
theorem forall_of_nodesOf {P : Node → Prop} {items : List Document}
    (hitems : ∀ item ∈ items, ∀ path node, nodeOf item path = .ok node → P node)
    {path : String} {index : Nat} {nodes : List Node}
    (h : nodesOf items path index = .ok nodes) :
    nodes.length = items.length ∧ ∀ node ∈ nodes, P node := by
  induction items generalizing index nodes with
  | nil =>
    cases h
    exact ⟨rfl, nofun⟩
  | cons item items ih =>
    rw [nodesOf] at h
    obtain ⟨node, hnode, h⟩ := Except.bind_eq_ok_iff.mp h
    obtain ⟨rest, hrest, h⟩ := Except.bind_eq_ok_iff.mp h
    cases h
    obtain ⟨hlength, hall⟩ :=
      ih (fun other hother => hitems other (List.mem_cons_of_mem _ hother)) hrest
    refine ⟨by rw [List.length_cons, List.length_cons, hlength], fun other hother => ?_⟩
    cases List.mem_cons.mp hother with
    | inl heq => exact heq ▸ hitems item List.mem_cons_self _ node hnode
    | inr hmem => exact hall other hmem

theorem checkChildRatios_of_forall {nodes : List Node}
    (h : ∀ node ∈ nodes, ∀ path, node.checkRatios path = .ok ()) (path : String)
    (index : Nat) : Node.checkChildRatios path index nodes = .ok () := by
  induction nodes generalizing index with
  | nil => rfl
  | cons node nodes ih =>
    rw [Node.checkChildRatios, h node List.mem_cons_self]
    exact ih (fun other hother => h other (List.mem_cons_of_mem _ hother)) (index + 1)

/-- A container passes the check of ratios when its frame was read from the
entries that its children were read from, and they pass. -/
theorem checkRatios_container {entries : Entries} {path : String} {frame : Frame}
    {children : List Node} (hframe : readFrame entries path = .ok frame)
    (hchildren : childrenIn entries path = .ok children)
    (hitems : ∀ items, panesIn? entries = some items → ∀ item ∈ items, ∀ path node,
      nodeOf item path = .ok node → ∀ path', node.checkRatios path' = .ok ())
    (path' : String) : (Node.container frame children).checkRatios path' = .ok () := by
  obtain ⟨items, hpanes, hratio⟩ := checkRatio_of_readFrame hframe
  rw [childrenIn_eq, hpanes] at hchildren
  obtain ⟨hlength, hall⟩ := forall_of_nodesOf (hitems items hpanes) hchildren
  rw [Node.checkRatios, hlength, hratio]
  exact checkChildRatios_of_forall hall path' 0

/-- A tree that was read passes the check of ratios, under any path. -/
theorem checkRatios_of_nodeOf {document : Document} {path : String} {node : Node}
    (h : nodeOf document path = .ok node) (path' : String) :
    node.checkRatios path' = .ok () := by
  induction document using Document.childInduction generalizing path node path' with
  | step document ih =>
    rw [nodeOf_eq] at h
    split at h
    · cases h
    · next entries hentries =>
      split at h
      -- the induction is on documents, so it speaks of items before they are nodes
      · obtain ⟨frame, hframe, h⟩ := Except.bind_eq_ok_iff.mp h
        obtain ⟨children, hchildren, h⟩ := Except.bind_eq_ok_iff.mp h
        cases h
        refine checkRatios_container hframe hchildren
          (fun items hitems item hitem path node hnode path' => ?_) path'
        have hchild : item ∈ document.children := by
          rw [Document.children, hentries, Option.bind_some, hitems]
          exact hitem
        exact ih item hchild hnode path'
      · obtain ⟨pane, -, rfl⟩ := Except.map_eq_ok_iff.mp h
        rfl

/-! ## Layouts -/

namespace Layout

/-- What a layout that was read is made of. -/
theorem ofDocument_eq_ok {document : Document} {layout : Layout}
    (h : Layout.ofDocument document = .ok layout) :
    ∃ value, layoutValue? document = some value ∧
      readText (document.asMapping?.getD []) "name" "document" = .ok layout.name ∧
      readFrame (value.asMapping?.getD []) rootPath = .ok layout.frame ∧
      childrenIn (value.asMapping?.getD []) rootPath = .ok layout.children ∧
      checkFocus layout.root = .ok () := by
  rw [ofDocument] at h
  split at h
  · cases h
  · next value hvalue =>
    obtain ⟨name, hname, h⟩ := Except.bind_eq_ok_iff.mp h
    obtain ⟨frame, hframe, h⟩ := Except.bind_eq_ok_iff.mp h
    obtain ⟨children, hchildren, h⟩ := Except.bind_eq_ok_iff.mp h
    obtain ⟨⟨⟩, hfocus, h⟩ := Except.bind_eq_ok_iff.mp h
    cases h
    exact ⟨value, hvalue, hname, hframe, hchildren, hfocus⟩

theorem checkRatios_of_ofDocument {document : Document} {layout : Layout}
    (h : Layout.ofDocument document = .ok layout) :
    layout.root.checkRatios rootPath = .ok () := by
  obtain ⟨value, -, -, hframe, hchildren, -⟩ := ofDocument_eq_ok h
  exact checkRatios_container hframe hchildren
    (fun _ _ _ _ _ _ hnode path' => checkRatios_of_nodeOf hnode path') rootPath

/-- A layout that was read is valid. -/
theorem validate_of_ofDocument {document : Document} {layout : Layout}
    (h : Layout.ofDocument document = .ok layout) : layout.validate = .ok () := by
  obtain ⟨_, -, -, -, -, hfocus⟩ := ofDocument_eq_ok h
  rw [validate, checkRatios_of_ofDocument h]
  exact hfocus

end Layout

end TmuxLayout
