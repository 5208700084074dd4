import Mathlib.Data.List.Forall2
import TmuxLayout.Proofs.Layout.Places
import TmuxLayout.Proofs.Layout.Violations

/-!
# A layout says what its document says

Reading looks at every field of a node in a way of its own: through tags or not,
with null for nothing or not. Here the outcome is compared with the document field
by field, node by node, at every place.

- `Document.at?`: the document of the node at a place.
- `Says`, `SaysWeights`: an optional text, and a ratio, are what entries say.
- `Pane.Mirrors`, `Frame.Mirrors`, `Node.Mirrors`: one node is what its document
  says, those below it apart.
- `nodeOf_cases`: what a node that was read is made of.
- `rel_at?_of_nodeOf`: a tree that was read has, at every place, what the document
  has there.
-/

namespace TmuxLayout

open Document (lookup?)

/-- The document of the node at a place. -/
def Document.at? : Document → Place → Option Document
  | document, [] => some document
  | document, number :: place => document.inner[number]?.bind (·.at? place)

/-! ## What entries say -/

/-- An optional text is what entries say in a field: a text that is no tagged one,
or nothing where the field is missing or null. -/
def Says (entries : Entries) (field : String) : Option String → Prop
  | some text => lookup? field entries = some (.string text)
  | none => lookup? field entries = none ∨ lookup? field entries = some .null

/-- Weights are what entries say about a ratio: the numbers of a sequence that is
no tagged one, or nothing where the field is missing or null. -/
def SaysWeights (entries : Entries) : Option (List Float) → Prop
  | some weights => ∃ numbers, lookup? "ratio" entries = some (.sequence numbers) ∧
      numbers.map Document.asNumber? = weights.map some
  | none => lookup? "ratio" entries = none ∨ lookup? "ratio" entries = some .null

/-- Focus is what entries say: only the boolean itself counts. -/
def SaysFocus (entries : Entries) (focus : Bool) : Prop :=
  focus = true ↔ lookup? "focus" entries = some (.bool true)

/-- A pane is what entries without a type say. -/
structure Pane.Mirrors (entries : Entries) (pane : Pane) : Prop where
  type : lookup? "type" entries = none
  name : Says entries "name" pane.name
  command : Says entries "command" pane.command
  focus : SaysFocus entries pane.focus

/-- A container is what entries with a type say; it has a child for each of the
items among its panes. -/
structure Frame.Mirrors (entries : Entries) (frame : Frame) (items : List Document) : Prop where
  type : (lookup? "type" entries).map Document.untagged = some (.string frame.direction.name)
  panes : (lookup? "panes" entries).map Document.untagged = some (.sequence items)
  ratio : SaysWeights entries frame.ratio
  focus : SaysFocus entries frame.focus

/-- A node is what the mapping of its document says, those below it apart. -/
def Node.Mirrors (document : Document) : Node → Prop
  | .pane p => ∃ entries, document.untagged = .mapping entries ∧ p.Mirrors entries
  | .container frame children => ∃ entries items, document.untagged = .mapping entries ∧
      frame.Mirrors entries items ∧ children.length = items.length

/-! ## Fields -/

/-- A text that was read is what entries say. -/
theorem says_of_readText {entries : Entries} {field path : String} {text : Option String}
    (h : readText entries field path = .ok text) : Says entries field text := by
  rw [readText] at h
  split at h
  · next hlookup =>
    cases h
    exact .inl hlookup
  · next hlookup =>
    cases h
    exact .inr hlookup
  · next hlookup =>
    cases h
    exact hlookup
  · cases h

/-- Focus as it is read is what entries say. -/
theorem saysFocus_readFocus (entries : Entries) : SaysFocus entries (readFocus entries) := by
  rw [SaysFocus, readFocus]
  split
  · next hlookup => exact ⟨fun _ => hlookup, fun _ => rfl⟩
  · next hlookup => exact ⟨nofun, fun htrue => absurd htrue hlookup⟩

theorem untagged_eq_of_asString? {document : Document} {text : String}
    (h : document.asString? = some text) : document.untagged = .string text := by
  rw [Document.asString?] at h
  split at h
  · cases h
    assumption
  · cases h

/-- A direction that was read is the one that the type names. -/
theorem type_of_readDirection {entries : Entries} {path : String} {direction : Direction}
    (h : readDirection entries path = .ok direction) :
    (lookup? "type" entries).map Document.untagged = some (.string direction.name) := by
  rw [readDirection] at h
  split at h
  · next direction' hdirection =>
    cases h
    obtain ⟨word, hword, hname⟩ := Option.bind_eq_some_iff.mp hdirection
    obtain ⟨type, htype, hstring⟩ := Option.bind_eq_some_iff.mp hword
    rw [htype, Option.map_some, untagged_eq_of_asString? hstring,
      Direction.ofName?_eq_some_iff.mp hname]
  · cases h

theorem panes_of_panesIn? {entries : Entries} {items : List Document}
    (h : panesIn? entries = some items) :
    (lookup? "panes" entries).map Document.untagged = some (.sequence items) := by
  obtain ⟨value, hvalue, hitems⟩ := Option.bind_eq_some_iff.mp h
  rw [hvalue, Option.map_some, Document.untagged_eq_of_asSequence? hitems]

/-- Weights that were read are the numbers, in order. -/
theorem map_asNumber?_of_readWeights {path : String} {numbers : List Document}
    {weights : List Float} (h : readWeights path numbers = .ok weights) :
    numbers.map Document.asNumber? = weights.map some := by
  induction numbers generalizing weights with
  | nil =>
    cases h
    rfl
  | cons number numbers ih =>
    rw [readWeights] at h
    split at h
    · next weight hweight =>
      obtain ⟨rest, hrest, rfl⟩ := Except.map_eq_ok_iff.mp h
      rw [List.map_cons, List.map_cons, hweight, ih hrest]
    · cases h

/-- A ratio that was read is what entries say. -/
theorem saysWeights_of_readRatio {entries : Entries} {childCount : Nat} {path : String}
    {ratio : Option (List Float)} (h : readRatio entries childCount path = .ok ratio) :
    SaysWeights entries ratio := by
  rw [readRatio] at h
  split at h
  · next hlookup =>
    cases h
    exact .inl hlookup
  · next hlookup =>
    cases h
    exact .inr hlookup
  · next numbers hlookup =>
    split at h
    · cases h
    · obtain ⟨weights, hweights, rfl⟩ := Except.map_eq_ok_iff.mp h
      exact ⟨numbers, hlookup, map_asNumber?_of_readWeights hweights⟩
  · cases h

/-! ## One node -/

/-- A pane that was read is what entries without a type say. -/
theorem mirrors_of_readPane {entries : Entries} {path : String} {pane : Pane}
    (hpane : isContainer entries = false) (h : readPane entries path = .ok pane) :
    pane.Mirrors entries := by
  obtain ⟨name, hname, h⟩ := Except.bind_eq_ok_iff.mp h
  obtain ⟨command, hcommand, h⟩ := Except.bind_eq_ok_iff.mp h
  cases h
  exact ⟨Option.isSome_eq_false_iff.mp hpane |> Option.isNone_iff_eq_none.mp,
    says_of_readText hname, says_of_readText hcommand, saysFocus_readFocus entries⟩

/-- A container that was read is what entries with a type say. -/
theorem mirrors_of_readFrame {entries : Entries} {path : String} {frame : Frame}
    (h : readFrame entries path = .ok frame) :
    ∃ items, panesIn? entries = some items ∧ frame.Mirrors entries items := by
  rw [readFrame] at h
  obtain ⟨direction, hdirection, h⟩ := Except.bind_eq_ok_iff.mp h
  split at h
  · cases h
  · next items hitems =>
    obtain ⟨ratio, hratio, h⟩ := Except.bind_eq_ok_iff.mp h
    cases h
    exact ⟨items, hitems, type_of_readDirection hdirection, panes_of_panesIn? hitems,
      saysWeights_of_readRatio hratio, saysFocus_readFocus entries⟩

/-- Every item of a row gives the node that stands in its place. -/
theorem forall₂_of_nodesOf {items : List Document} {path : String} {index : Nat}
    {nodes : List Node} (h : nodesOf items path index = .ok nodes) :
    List.Forall₂ (fun item node => ∃ path, nodeOf item path = .ok node) items nodes := by
  induction items generalizing index nodes with
  | nil =>
    cases h
    exact .nil
  | cons item items ih =>
    rw [nodesOf] at h
    obtain ⟨node, hnode, h⟩ := Except.bind_eq_ok_iff.mp h
    obtain ⟨rest, hrest, h⟩ := Except.bind_eq_ok_iff.mp h
    cases h
    exact .cons ⟨_, hnode⟩ (ih hrest)

/-- What a node is made of that was read: a pane, or a frame and the nodes of the
documents right below. -/
theorem nodeOf_cases {document : Document} {path : String} {node : Node}
    (h : nodeOf document path = .ok node) :
    ∃ entries, document.untagged = .mapping entries ∧
      ((isContainer entries = false ∧ document.inner = [] ∧
          ∃ pane, node = .pane pane ∧ pane.Mirrors entries) ∨
        (isContainer entries = true ∧
          ∃ frame children, node = .container frame children ∧
            frame.Mirrors entries document.inner ∧
            List.Forall₂ (fun item node => ∃ path, nodeOf item path = .ok node)
              document.inner children)) := by
  rw [nodeOf_eq] at h
  split at h
  · cases h
  · next entries hentries =>
    refine ⟨entries, Document.untagged_eq_of_asMapping? hentries, ?_⟩
    split at h
    · next hcontainer =>
      obtain ⟨frame, hframe, h⟩ := Except.bind_eq_ok_iff.mp h
      obtain ⟨children, hchildren, h⟩ := Except.bind_eq_ok_iff.mp h
      cases h
      -- the documents right below are the items that the frame was read with
      obtain ⟨items, hitems, hmirrors⟩ := mirrors_of_readFrame hframe
      rw [childrenIn_eq, hitems] at hchildren
      rw [Document.inner_container hentries hcontainer, Document.children_eq hentries hitems]
      exact .inr ⟨hcontainer, frame, children, rfl, hmirrors, forall₂_of_nodesOf hchildren⟩
    · next hpane =>
      have hpane : isContainer entries = false := Bool.eq_false_iff.mpr hpane
      obtain ⟨pane, hread, rfl⟩ := Except.map_eq_ok_iff.mp h
      exact .inl ⟨hpane, Document.inner_pane hentries hpane, pane, rfl,
        mirrors_of_readPane hpane hread⟩

/-- A node that was read is what its document says. -/
theorem mirrors_of_nodeOf {document : Document} {path : String} {node : Node}
    (h : nodeOf document path = .ok node) : node.Mirrors document := by
  obtain ⟨entries, hentries, ⟨-, -, pane, rfl, hpane⟩ |
    ⟨-, frame, children, rfl, hframe, hchildren⟩⟩ := nodeOf_cases h
  · exact ⟨entries, hentries, hpane⟩
  · exact ⟨entries, document.inner, hentries, hframe, hchildren.length_eq.symm⟩

/-! ## Trees -/

/-- Rows whose members are related are related at every position. -/
theorem rel_getElem? {α β : Type} {r : α → β → Prop} {items : List α} {others : List β}
    (h : List.Forall₂ r items others) (position : Nat) :
    Option.Rel r items[position]? others[position]? := by
  induction h generalizing position with
  | nil => exact .none
  | cons hfirst _ ih =>
    cases position with
    | zero => exact .some hfirst
    | succ position => exact ih position

/-- A tree that was read has a node wherever the document has one, and every node
is what its document says. -/
theorem rel_at?_of_nodeOf {document : Document} {path : String} {node : Node}
    (h : nodeOf document path = .ok node) (place : Place) :
    Option.Rel Node.Mirrors (document.at? place) (node.at? place) := by
  induction place generalizing document path node with
  | nil =>
    rw [Document.at?, Node.at?]
    exact .some (mirrors_of_nodeOf h)
  | cons number place ih =>
    obtain ⟨-, -, ⟨-, hinner, pane, rfl, -⟩ | ⟨-, frame, children, rfl, -, hchildren⟩⟩ :=
      nodeOf_cases h
    · rw [Document.at?, hinner, Node.at?]
      exact .none
    · rw [Document.at?, Node.at?]
      have hrel := rel_getElem? hchildren number
      generalize document.inner[number]? = item, children[number]? = child at hrel ⊢
      cases hrel with
      | none => exact .none
      | some hchild =>
        obtain ⟨path, hchild⟩ := hchild
        exact ih hchild

end TmuxLayout
