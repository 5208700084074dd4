import TmuxLayout.Proofs.Layout.Children

/-!
# Writing layouts out

Every tree can be written as a document, valid or not. Reading the document goes
through checks of its own and must end as the check of the tree does: with the
tree, or with the same first fault.

- `Node.document`, `Layout.document`: a tree as a document.
- `lookup?_append`, `lookup?_field`: where a key is found among entries that were
  written.
- `nodeOf_document`: reading a node that was written is checking its ratios.
- `Layout.ofDocument_document`: reading a layout that was written is checking it.
-/

namespace TmuxLayout

open Document (lookup?)

/-! ## Documents of trees -/

/-- The entry for a field, if it has a value. -/
def field (key : String) (value : Option Document) : Entries :=
  (value.map fun value => (Document.string key, value)).toList

/-- The entry for focus, if a node has it. -/
def focusField (focus : Bool) : Entries :=
  field "focus" (if focus then some (.bool true) else none)

/-- A pane as entries. -/
def Pane.entries (pane : Pane) : Entries :=
  field "name" (pane.name.map .string) ++ field "command" (pane.command.map .string) ++
    focusField pane.focus

/-- Weights as a document. -/
def weightsDocument (weights : List Float) : Document :=
  .sequence (weights.map .float)

/-- A container as entries. -/
def Frame.entries (frame : Frame) (children : List Document) : Entries :=
  field "type" (some (.string frame.direction.name)) ++
    field "panes" (some (.sequence children)) ++ field "ratio" (frame.ratio.map weightsDocument) ++
    focusField frame.focus

mutual

/-- A node as a document. -/
def Node.document : Node → Document
  | .pane pane => .mapping pane.entries
  | .container frame children => .mapping (frame.entries (documents children))

/-- The nodes of a row as documents. -/
def documents : List Node → List Document
  | [] => []
  | node :: nodes => node.document :: documents nodes

end

/-- A layout as a document. -/
def Layout.document (layout : Layout) : Document :=
  .mapping (field "name" (layout.name.map .string) ++ field "layout" (some layout.root.document))

/-! ## Entries that were written -/

theorem lookup?_append (key : String) (entries others : Entries) :
    lookup? key (entries ++ others) = (lookup? key entries).or (lookup? key others) := by
  fun_induction lookup? key entries with
  | case1 => rfl
  | case2 value entries => exact Document.lookup?_cons_self key value _
  | case3 text value entries hne ih =>
    rw [List.cons_append,
      Document.lookup?_cons_of_ne (fun heq => hne (Document.string.inj heq)), ih]
  | case4 entry entries hne ih =>
    obtain ⟨other, value⟩ := entry
    rw [List.cons_append, Document.lookup?_cons_of_ne (fun heq => hne _ _ (by rw [heq])), ih]

/-- The entry for a field is found under its key alone. -/
theorem lookup?_field (key other : String) (value : Option Document) :
    lookup? key (field other value) = if other = key then value else none := by
  cases value with
  | none =>
    rw [ite_self]
    rfl
  | some value => rfl

/-! ## Panes -/

/-- Focus is read as it was written. -/
theorem readFocus_of_lookup? {entries : Entries} {focus : Bool}
    (h : lookup? "focus" entries = if focus then some (.bool true) else none) :
    readFocus entries = focus := by
  rw [readFocus, h]
  cases focus <;> rfl

/-- An optional text is read as it was written. -/
theorem readText_of_lookup? {entries : Entries} {key : String} {text : Option String}
    (h : lookup? key entries = text.map .string) (path : String) :
    readText entries key path = .ok text := by
  rw [readText, h]
  cases text <;> rfl

theorem isContainer_pane (pane : Pane) : isContainer pane.entries = false := by
  simp [isContainer, Pane.entries, focusField, lookup?_append, lookup?_field]

/-- A pane that was written is read as it was. -/
theorem readPane_entries (pane : Pane) (path : String) :
    readPane pane.entries path = .ok pane := by
  have hname : lookup? "name" pane.entries = pane.name.map .string := by
    simp [Pane.entries, focusField, lookup?_append, lookup?_field]
  have hcommand : lookup? "command" pane.entries = pane.command.map .string := by
    simp [Pane.entries, focusField, lookup?_append, lookup?_field]
  have hfocus : lookup? "focus" pane.entries =
      if pane.focus then some (.bool true) else none := by
    simp [Pane.entries, focusField, lookup?_append, lookup?_field]
  rw [readPane, readText_of_lookup? hname path, readText_of_lookup? hcommand path,
    readFocus_of_lookup? hfocus]
  rfl

/-! ## Frames -/

/-- Weights are read as they were written, whatever doubles they are. -/
theorem readWeights_map_float (path : String) (weights : List Float) :
    readWeights path (weights.map .float) = .ok weights := by
  induction weights with
  | nil => rfl
  | cons weight weights ih =>
    rw [List.map_cons, readWeights, ih]
    rfl

section Frame

variable (frame : Frame) (children : List Document)

theorem isContainer_frame : isContainer (frame.entries children) = true := by
  simp [isContainer, Frame.entries, focusField, lookup?_append, lookup?_field]

theorem panesIn?_frame : panesIn? (frame.entries children) = some children := by
  have hpanes : lookup? "panes" (frame.entries children) = some (.sequence children) := by
    simp [Frame.entries, focusField, lookup?_append, lookup?_field]
  rw [panesIn?, hpanes]
  rfl

theorem childrenIn_frame (path : String) :
    childrenIn (frame.entries children) path = nodesOf children path 0 := by
  rw [childrenIn_eq, panesIn?_frame]

/-- A direction is read as it was written. -/
theorem readDirection_frame (path : String) :
    readDirection (frame.entries children) path = .ok frame.direction := by
  have htype : lookup? "type" (frame.entries children) =
      some (.string frame.direction.name) := by
    simp [Frame.entries, focusField, lookup?_append, lookup?_field]
  have hname : (lookup? "type" (frame.entries children)).bind Document.asString? =
      some frame.direction.name := by
    rw [htype]
    rfl
  rw [readDirection, hname, Option.bind_some, Direction.ofName?_eq_some_iff.mpr rfl]

/-- Reading a ratio that was written is checking it. -/
theorem readRatio_frame (path : String) :
    readRatio (frame.entries children) children.length path =
      (checkRatio frame children.length path).map fun _ => frame.ratio := by
  have hratio : lookup? "ratio" (frame.entries children) =
      frame.ratio.map weightsDocument := by
    simp [Frame.entries, focusField, lookup?_append, lookup?_field]
  rw [readRatio, hratio, checkRatio]
  cases frame.ratio with
  | none => rfl
  | some weights =>
    dsimp only [Option.map_some, weightsDocument]
    rw [List.length_map]
    -- the check comes before the weights are read, so a fault is that of the check
    by_cases hlength : weights.length = children.length
    · rw [if_neg (not_not_intro hlength), if_neg (not_not_intro hlength),
        readWeights_map_float]
      rfl
    · rw [if_pos hlength, if_pos hlength]
      rfl

/-- Reading a frame that was written is checking its ratio. -/
theorem readFrame_entries (path : String) :
    readFrame (frame.entries children) path =
      (checkRatio frame children.length path).map fun _ => frame := by
  have hfocus : lookup? "focus" (frame.entries children) =
      if frame.focus then some (.bool true) else none := by
    simp [Frame.entries, focusField, lookup?_append, lookup?_field]
  rw [readFrame, readDirection_frame, panesIn?_frame]
  show ((readRatio (frame.entries children) children.length path).bind _) = _
  rw [readRatio_frame, readFocus_of_lookup? hfocus]
  cases checkRatio frame children.length path with
  | error fault => rfl
  | ok _ => rfl

end Frame

/-! ## Trees -/

theorem length_documents (nodes : List Node) : (documents nodes).length = nodes.length := by
  induction nodes with
  | nil => rfl
  | cons node nodes ih => rw [documents, List.length_cons, List.length_cons, ih]

mutual

/-- Reading a node that was written is checking the ratios below it. -/
theorem nodeOf_document (node : Node) (path : String) :
    nodeOf node.document path = (node.checkRatios path).map fun _ => node := by
  cases node with
  | pane pane =>
    rw [Node.document, nodeOf, isContainer_pane, readPane_entries]
    rfl
  | container frame children =>
    rw [Node.document, nodeOf, isContainer_frame, if_pos rfl, readFrame_entries,
      length_documents, childrenIn_frame, nodesOf_documents children path 0, Node.checkRatios]
    cases checkRatio frame children.length path with
    | error fault => rfl
    | ok _ =>
      cases Node.checkChildRatios path 0 children with
      | error fault => rfl
      | ok _ => rfl

/-- Reading a row of nodes that was written is checking the ratios below it. -/
theorem nodesOf_documents (nodes : List Node) (path : String) (index : Nat) :
    nodesOf (documents nodes) path index =
      (Node.checkChildRatios path index nodes).map fun _ => nodes := by
  cases nodes with
  | nil => rfl
  | cons node nodes =>
    rw [documents, nodesOf, nodeOf_document node (childPath path index),
      nodesOf_documents nodes path (index + 1), Node.checkChildRatios]
    cases node.checkRatios (childPath path index) with
    | error fault => rfl
    | ok _ =>
      cases Node.checkChildRatios path (index + 1) nodes with
      | error fault => rfl
      | ok _ => rfl

end

/-! ## Layouts -/

namespace Layout

/-- The entries of the container at the root are those of the document. -/
theorem layoutValue?_document (layout : Layout) :
    layoutValue? layout.document =
      some (.mapping (layout.frame.entries (documents layout.children))) := by
  have hlayout : layout.document.get? "layout" = some layout.root.document := by
    show lookup? "layout" (_ ++ _) = _
    simp [lookup?_append, lookup?_field]
  rw [layoutValue?, hlayout]
  rfl

/-- **Reading undoes writing, and fails as the check does.** Whatever the layout,
reading its document ends with the layout itself when it is valid, and with the
fault of the check when it is not. -/
theorem ofDocument_document (layout : Layout) :
    Layout.ofDocument layout.document = layout.validate.map fun _ => layout := by
  have hname : readText (layout.document.asMapping?.getD []) "name" "document" =
      .ok layout.name := by
    refine readText_of_lookup? ?_ "document"
    show lookup? "name" (_ ++ _) = _
    simp [lookup?_append, lookup?_field]
  have hentries : (Document.mapping
      (layout.frame.entries (documents layout.children))).asMapping?.getD [] =
        layout.frame.entries (documents layout.children) := rfl
  rw [Layout.ofDocument, layoutValue?_document]
  dsimp only
  rw [hname, hentries, readFrame_entries, childrenIn_frame,
    nodesOf_documents layout.children rootPath 0, length_documents, Layout.validate, Layout.root,
    Node.checkRatios]
  cases checkRatio layout.frame layout.children.length rootPath with
  | error fault => rfl
  | ok _ =>
    cases Node.checkChildRatios rootPath 0 layout.children with
    | error fault => rfl
    | ok _ =>
      -- both ways look at focus last
      show (checkFocus layout.root).bind _ = (checkFocus layout.root).map _
      cases checkFocus layout.root with
      | error fault => rfl
      | ok _ => rfl

end Layout

end TmuxLayout
