import TmuxLayout.Proofs.Except
import TmuxLayout.Proofs.Layout.Focus
import TmuxLayout.Proofs.Layout.Reading

/-!
# The first violation of a document (SPEC_FULL.md §4.1, §11)

A document that is no layout may break many rules at once. Here they are all
collected in a walk of its own, which never stops, and reading is shown to fail
with the first of them.

- `Document.walk`: the nodes of a document with their paths, a node before those
  below it and all from left to right.
- `containerViolations`, `paneViolations`, `nodeViolations`: the rules that one
  node breaks.
- `Document.violations`: all rules that a document breaks, in the order of nodes.
- `Document.focusCount`: how many nodes of a document carry focus.
- `reports_nodeOf`: reading a node fails with the first violation of the walk.
- `focusCount_of_nodeOf`: the focused nodes are those that carry focus.
- `Layout.ofDocument_first_violation`: all of it together.
-/

namespace TmuxLayout

open Document (lookup?)

/-! ## The walk -/

namespace Document

/-- The documents of the nodes right below a node; a pane has none. -/
def inner (document : Document) : List Document :=
  if document.asMapping?.any isContainer then document.children else []

theorem children_eq {document : Document} {entries : Entries} {panes : List Document}
    (hentries : document.asMapping? = some entries) (hpanes : panesIn? entries = some panes) :
    document.children = panes := by
  rw [children, hentries, Option.bind_some, hpanes, Option.getD_some]

theorem inner_container {document : Document} {entries : Entries}
    (hentries : document.asMapping? = some entries) (hcontainer : isContainer entries = true) :
    document.inner = document.children := by
  rw [inner, hentries, Option.any_some, if_pos hcontainer]

/-- Below a pane there is nothing, whatever stands under `panes`. -/
theorem inner_pane {document : Document} {entries : Entries}
    (hentries : document.asMapping? = some entries) (hpane : isContainer entries = false) :
    document.inner = [] := by
  rw [inner, hentries, Option.any_some, hpane, if_neg Bool.false_ne_true]

/-- Panes that are found among the entries of a document, or among none, are its
children. -/
theorem children_of_panesIn? {document : Document} {panes : List Document}
    (h : panesIn? (document.asMapping?.getD []) = some panes) : document.children = panes := by
  cases hentries : document.asMapping? with
  | none =>
    rw [hentries] at h
    cases h
  | some entries =>
    rw [hentries] at h
    exact children_eq hentries h

/-- What is below a document is smaller than it, so the walk ends. -/
theorem itemsSize_inner_lt (document : Document) : itemsSize document.inner < document.size := by
  rw [inner]
  split
  · exact itemsSize_children_lt document
  · exact size_pos document

mutual

/-- A node and those below it with their paths. -/
def walk (path : String) (document : Document) : List (String × Document) :=
  (path, document) :: walkRow path 0 document.inner
termination_by 2 * document.size
decreasing_by
  have hlt := itemsSize_inner_lt document
  omega

/-- The nodes of a row and those below them with their paths, counted from
`position`. -/
def walkRow (path : String) (position : Nat) : List Document → List (String × Document)
  | [] => []
  | document :: documents =>
    walk (path ++ ".panes[" ++ toString position ++ "]") document ++
      walkRow path (position + 1) documents
termination_by documents => 2 * itemsSize documents + 1
decreasing_by
  · rw [itemsSize]
    omega
  · have hpos := size_pos document
    rw [itemsSize]
    omega

end

end Document

/-! ## Rules -/

/-- A text must be one, if it is given at all. -/
def textViolations (path field : String) (entries : Entries) : List Layout.Fault :=
  match lookup? field entries with
  | none | some .null | some (.string _) => []
  | some other => [.invalidField path field ("expected a string, found " ++ other.kind)]

/-- The type must be one of two words. -/
def typeViolations (path : String) (entries : Entries) : List Layout.Fault :=
  let type := lookup? "type" entries
  let word := type.bind Document.asString?
  if word = some "horizontal" ∨ word = some "vertical" then []
  else [.invalidContainerType path (typeFound type)]

/-- The panes must be a sequence. -/
def panesViolations (path : String) (entries : Entries) : List Layout.Fault :=
  if (panesIn? entries).isSome then [] else [.missingPanes path]

/-- A ratio must be a sequence, as long as the one of the panes, of numbers. -/
def ratioViolations (path : String) (entries : Entries) : List Layout.Fault :=
  match lookup? "ratio" entries with
  | none | some .null => []
  | some (.sequence weights) =>
    (match panesIn? entries with
      | some panes =>
        if weights.length = panes.length then []
        else [.ratioLengthMismatch path weights.length panes.length]
      | none => []) ++
    (weights.filter (·.asNumber?.isNone)).map fun weight =>
      .invalidField path "ratio" ("expected a number, found " ++ weight.kind)
  | some other =>
    [.invalidField path "ratio" ("expected an array of numbers, found " ++ other.kind)]

/-- The rules that a container breaks, its children apart. -/
def containerViolations (path : String) (entries : Entries) : List Layout.Fault :=
  typeViolations path entries ++ (panesViolations path entries ++ ratioViolations path entries)

/-- The rules that a pane breaks. -/
def paneViolations (path : String) (entries : Entries) : List Layout.Fault :=
  textViolations path "name" entries ++ textViolations path "command" entries

/-- The rules that a node breaks, those below it apart. -/
def nodeViolations (path : String) (document : Document) : List Layout.Fault :=
  match document.asMapping? with
  | none =>
    [.invalidField path "panes"
      ("expected a pane or container mapping, found " ++ document.kind)]
  | some entries =>
    if isContainer entries then containerViolations path entries
    else paneViolations path entries

/-- The rules that nodes with their paths break. -/
def violationsOf (nodes : List (String × Document)) : List Layout.Fault :=
  nodes.flatMap fun (path, document) => nodeViolations path document

namespace Document

/-- The rules that a document breaks. A layout must be given, and count as such;
its root is a container whatever it looks like. -/
def violations (document : Document) : List Layout.Fault :=
  let nameViolations := textViolations "document" "name" (document.asMapping?.getD [])
  match layoutValue? document with
  | none => .missingLayout :: nameViolations
  | some root =>
    nameViolations ++ (containerViolations "layout" (root.asMapping?.getD []) ++
      violationsOf (walkRow "layout" 0 root.children))

/-- Whether a node carries the boolean itself as its focus. -/
def carriesFocus (document : Document) : Bool :=
  match document.get? "focus" with
  | some (.bool true) => true
  | _ => false

/-- How many nodes of a document carry focus. -/
def focusCount (document : Document) : Nat :=
  match layoutValue? document with
  | none => 0
  | some root =>
    (("layout", root) :: walkRow "layout" 0 root.children).countP (·.2.carriesFocus)

end Document

theorem violationsOf_append (nodes others : List (String × Document)) :
    violationsOf (nodes ++ others) = violationsOf nodes ++ violationsOf others :=
  List.flatMap_append

theorem violationsOf_walkRow_nil (path : String) (position : Nat) :
    violationsOf (Document.walkRow path position []) = [] := by
  rw [Document.walkRow]
  rfl

/-- The rules that a node breaks come before those below it. -/
theorem violationsOf_walk (path : String) (document : Document) :
    violationsOf (document.walk path) =
      nodeViolations path document ++ violationsOf (Document.walkRow path 0 document.inner) := by
  rw [Document.walk]
  exact List.flatMap_cons

/-! ## Fields -/

/-- Reading a text reports the rule on texts. -/
theorem reports_readText (path field : String) (entries : Entries) :
    (readText entries field path).Reports (textViolations path field entries) := by
  rw [readText, textViolations]
  cases lookup? field entries with
  | none => rfl
  | some value => cases value <;> rfl

/-- Reading a direction reports the rule on types. -/
theorem reports_readDirection (path : String) (entries : Entries) :
    (readDirection entries path).Reports (typeViolations path entries) := by
  rw [readDirection, typeViolations]
  cases hword : (lookup? "type" entries).bind Document.asString? with
  | none => rfl
  | some word =>
    rw [Option.bind_some]
    by_cases hhorizontal : word = "horizontal"
    · rw [hhorizontal]
      rfl
    · by_cases hvertical : word = "vertical"
      · rw [hvertical]
        rfl
      -- any other word names no direction
      · have hnone : Direction.ofName? word = none := by
          cases hname : Direction.ofName? word with
          | none => rfl
          | some direction =>
            have hword := Direction.ofName?_eq_some_iff.mp hname
            cases direction with
            | horizontal => exact absurd hword hhorizontal
            | vertical => exact absurd hword hvertical
        rw [hnone, if_neg (by simp [hhorizontal, hvertical])]
        rfl

/-- Reading weights reports each entry that is no number. -/
theorem reports_readWeights (path : String) (weights : List Document) :
    (readWeights path weights).Reports
      ((weights.filter (·.asNumber?.isNone)).map (wrongKind path "ratio" "a number")) := by
  induction weights with
  | nil => rfl
  | cons item items ih =>
    rw [readWeights, List.filter_cons]
    cases item.asNumber? with
    | none => rfl
    | some weight => exact ih.map _

/-- Reading a ratio reports the rules on its kind, its length and its entries. -/
theorem reports_readRatio (path : String) {entries : Entries} {panes : List Document}
    (h : panesIn? entries = some panes) :
    (readRatio entries panes.length path).Reports (ratioViolations path entries) := by
  rw [readRatio, ratioViolations, h]
  cases lookup? "ratio" entries with
  | none => rfl
  | some value =>
    cases value with
    | sequence weights =>
      dsimp only
      by_cases hlength : weights.length = panes.length
      · rw [if_neg (not_not_intro hlength), if_pos hlength]
        exact (reports_readWeights path weights).map _
      · rw [if_pos hlength, if_neg hlength]
        rfl
    | _ => rfl

/-- Reading a container reports its rules in the order type, panes, ratio. -/
theorem reports_readFrame (path : String) (entries : Entries) :
    (readFrame entries path).Reports (containerViolations path entries) := by
  refine (reports_readDirection path entries).bind fun direction _ => ?_
  rw [panesViolations]
  cases hpanes : panesIn? entries with
  | none => rfl
  | some panes => exact (reports_readRatio path hpanes).map _

/-- Reading a pane reports the rule on its name and then that on its command. -/
theorem reports_readPane (path : String) (entries : Entries) :
    (readPane entries path).Reports (paneViolations path entries) :=
  (reports_readText path "name" entries).bind fun _ _ =>
    (reports_readText path "command" entries).map _

/-! ## Nodes -/

/-- Reading a row fails with the first violation of the row when that holds of
each of its nodes. -/
theorem reports_nodesOf {documents : List Document}
    (h : ∀ document ∈ documents, ∀ path,
      (nodeOf document path).Reports (violationsOf (document.walk path)))
    (path : String) (position : Nat) :
    (nodesOf documents path position).Reports
      (violationsOf (Document.walkRow path position documents)) := by
  induction documents generalizing position with
  | nil => exact violationsOf_walkRow_nil path position
  | cons document documents ih =>
    rw [nodesOf, Document.walkRow, violationsOf_append]
    refine (h document List.mem_cons_self _).bind fun node _ => ?_
    exact (ih (fun other hother => h other (List.mem_cons_of_mem _ hother)) (position + 1)).map _

/-- Once the frame of a container is read, the children are those of its panes. -/
theorem childrenIn_of_readFrame {entries : Entries} {path : String} {frame : Frame}
    (h : readFrame entries path = .ok frame) :
    ∃ panes, panesIn? entries = some panes ∧
      childrenIn entries path = nodesOf panes path 0 := by
  obtain ⟨panes, hpanes, -⟩ := checkRatio_of_readFrame h
  refine ⟨panes, hpanes, ?_⟩
  rw [childrenIn_eq, hpanes]

/-- Reading a node fails with the first violation of the walk through it. -/
theorem reports_nodeOf (document : Document) (path : String) :
    (nodeOf document path).Reports (violationsOf (document.walk path)) := by
  induction document using Document.childInduction generalizing path with
  | step document ih =>
    rw [nodeOf_eq, violationsOf_walk, nodeViolations]
    cases hentries : document.asMapping? with
    | none => rfl
    | some entries =>
      dsimp only
      cases hcontainer : isContainer entries with
      | false =>
        rw [Document.inner_pane hentries hcontainer, violationsOf_walkRow_nil, List.append_nil]
        exact (reports_readPane path entries).map _
      | true =>
        rw [Document.inner_container hentries hcontainer]
        refine (reports_readFrame path entries).bind fun frame hframe => ?_
        obtain ⟨panes, hpanes, hchildren⟩ := childrenIn_of_readFrame hframe
        rw [Document.children_eq hentries hpanes] at ih ⊢
        rw [hchildren]
        exact (reports_nodesOf ih path 0).map _

/-! ## Focus -/

/-- A mapping carries focus when focus is read from its entries. -/
theorem carriesFocus_eq {document : Document} {entries : Entries}
    (h : document.asMapping? = some entries) : document.carriesFocus = readFocus entries := by
  rw [Document.carriesFocus, Document.get?, h]
  rfl

theorem focus_of_readFrame {entries : Entries} {path : String} {frame : Frame}
    (h : readFrame entries path = .ok frame) : frame.focus = readFocus entries := by
  rw [readFrame] at h
  obtain ⟨direction, -, h⟩ := Except.bind_eq_ok_iff.mp h
  split at h
  · cases h
  · obtain ⟨ratio, -, h⟩ := Except.bind_eq_ok_iff.mp h
    cases h
    rfl

theorem focus_of_readPane {entries : Entries} {path : String} {pane : Pane}
    (h : readPane entries path = .ok pane) : pane.focus = readFocus entries := by
  obtain ⟨name, -, h⟩ := Except.bind_eq_ok_iff.mp h
  obtain ⟨command, -, h⟩ := Except.bind_eq_ok_iff.mp h
  cases h
  rfl

/-- The focused nodes of a row are those that carry focus when that holds of each
of its nodes. -/
theorem focusCount_of_nodesOf {documents : List Document}
    (h : ∀ document ∈ documents, ∀ path node, nodeOf document path = .ok node →
      node.focusCount = (document.walk path).countP (·.2.carriesFocus))
    {path : String} {position : Nat} {nodes : List Node}
    (hnodes : nodesOf documents path position = .ok nodes) :
    (Node.placedFrom position nodes).countP (·.2.isFocused) =
      (Document.walkRow path position documents).countP (·.2.carriesFocus) := by
  induction documents generalizing position nodes with
  | nil =>
    cases hnodes
    rw [Document.walkRow]
    rfl
  | cons document documents ih =>
    rw [nodesOf] at hnodes
    obtain ⟨node, hnode, hnodes⟩ := Except.bind_eq_ok_iff.mp hnodes
    obtain ⟨rest, hrest, hnodes⟩ := Except.bind_eq_ok_iff.mp hnodes
    cases hnodes
    have hfirst := h document List.mem_cons_self _ node hnode
    have hothers := ih (fun other hother => h other (List.mem_cons_of_mem _ hother)) hrest
    rw [Node.placedFrom, List.countP_append, List.countP_map, hothers, Document.walkRow,
      List.countP_append, ← childPath, ← hfirst]
    rfl

/-- The focused nodes of a tree that was read are those that carry focus. -/
theorem focusCount_of_nodeOf {document : Document} {path : String} {node : Node}
    (h : nodeOf document path = .ok node) :
    node.focusCount = (document.walk path).countP (·.2.carriesFocus) := by
  induction document using Document.childInduction generalizing path node with
  | step document ih =>
    rw [nodeOf_eq] at h
    split at h
    · cases h
    · next entries hentries =>
      rw [Document.walk, List.countP_cons, Node.focusCount, carriesFocus_eq hentries]
      split at h
      · next hcontainer =>
        obtain ⟨frame, hframe, h⟩ := Except.bind_eq_ok_iff.mp h
        obtain ⟨children, hchildren, h⟩ := Except.bind_eq_ok_iff.mp h
        cases h
        -- the nodes below are counted by induction, the container by its own entry
        obtain ⟨panes, hpanes, heq⟩ := childrenIn_of_readFrame hframe
        rw [heq] at hchildren
        rw [Document.children_eq hentries hpanes] at ih
        rw [Document.inner_container hentries hcontainer,
          Document.children_eq hentries hpanes, ← focus_of_readFrame hframe, Node.placed,
          List.countP_cons,
          focusCount_of_nodesOf (fun item hitem path node hnode => ih item hitem hnode) hchildren]
        rfl
      · next hpane =>
        obtain ⟨pane, hpane', rfl⟩ := Except.map_eq_ok_iff.mp h
        rw [Document.inner_pane hentries (Bool.eq_false_iff.mpr hpane), Document.walkRow,
          ← focus_of_readPane hpane', Node.placed, List.countP_cons]
        rfl

/-! ## Violations and the rule on focus -/

/-- None of the faults is about focus. -/
def NotAboutFocus (faults : List Layout.Fault) : Prop :=
  ∀ fault ∈ faults, ∀ paths, fault ≠ .multipleFocus paths

theorem notAboutFocus_append {faults others : List Layout.Fault} (h : NotAboutFocus faults)
    (hothers : NotAboutFocus others) : NotAboutFocus (faults ++ others) := by
  intro fault hfault
  cases List.mem_append.mp hfault with
  | inl hmem => exact h fault hmem
  | inr hmem => exact hothers fault hmem

theorem notAboutFocus_wrongKind (path field expected : String) (values : List Document) :
    NotAboutFocus (values.map (wrongKind path field expected)) := by
  intro fault hfault paths heq
  obtain ⟨value, -, rfl⟩ := List.mem_map.mp hfault
  cases heq

theorem notAboutFocus_singleton {fault : Layout.Fault}
    (h : ∀ paths, fault ≠ .multipleFocus paths) : NotAboutFocus [fault] := by
  intro other hother
  cases List.mem_singleton.mp hother
  exact h

theorem notAboutFocus_ite {p : Prop} [Decidable p] {fault : Layout.Fault}
    (h : ∀ paths, fault ≠ .multipleFocus paths) :
    NotAboutFocus (if p then [] else [fault]) := by
  split
  · exact nofun
  · exact notAboutFocus_singleton h

section

variable (path : String) (entries : Entries)

theorem notAboutFocus_textViolations (field : String) :
    NotAboutFocus (textViolations path field entries) := by
  rw [textViolations]
  split
  · exact nofun
  · exact nofun
  · exact nofun
  · exact notAboutFocus_wrongKind path field "a string" [_]

theorem notAboutFocus_containerViolations :
    NotAboutFocus (containerViolations path entries) := by
  refine notAboutFocus_append (notAboutFocus_ite nofun)
    (notAboutFocus_append (notAboutFocus_ite nofun) ?_)
  rw [ratioViolations]
  split
  · exact nofun
  · exact nofun
  · refine notAboutFocus_append ?_ (notAboutFocus_wrongKind path "ratio" "a number" _)
    split
    · exact notAboutFocus_ite nofun
    · exact nofun
  · exact notAboutFocus_wrongKind path "ratio" "an array of numbers" [_]

theorem notAboutFocus_nodeViolations (document : Document) :
    NotAboutFocus (nodeViolations path document) := by
  rw [nodeViolations]
  split
  · exact notAboutFocus_wrongKind path "panes" "a pane or container mapping" [document]
  · split
    · exact notAboutFocus_containerViolations path _
    · exact notAboutFocus_append (notAboutFocus_textViolations path _ "name")
        (notAboutFocus_textViolations path _ "command")

end

/-- No rule of the walk is that on focus. -/
theorem notAboutFocus_violations (document : Document) :
    NotAboutFocus document.violations := by
  have hname : NotAboutFocus (textViolations "document" "name" _) :=
    notAboutFocus_textViolations "document" (document.asMapping?.getD []) "name"
  rw [Document.violations]
  split
  · have hmissing : NotAboutFocus [.missingLayout] := notAboutFocus_singleton nofun
    exact notAboutFocus_append hmissing hname
  · refine notAboutFocus_append hname
      (notAboutFocus_append (notAboutFocus_containerViolations _ _) ?_)
    intro fault hfault
    obtain ⟨⟨path, node⟩, -, hmem⟩ := List.mem_flatMap.mp hfault
    exact notAboutFocus_nodeViolations path node fault hmem

/-! ## Layouts -/

namespace Layout

/-- A layout from a document, the rule on focus left out. -/
def ofTree (document : Document) : Except Fault Layout := do
  match layoutValue? document with
  | none => throw .missingLayout
  | some value =>
    let name ← readText (document.asMapping?.getD []) "name" "document"
    let frame ← readFrame (value.asMapping?.getD []) rootPath
    let children ← childrenIn (value.asMapping?.getD []) rootPath
    return ⟨name, frame, children⟩

/-- The rule on focus comes last. -/
theorem ofDocument_eq (document : Document) :
    ofDocument document =
      ofTree document >>= fun layout => (checkFocus layout.root).map fun _ => layout := by
  rw [ofDocument, ofTree]
  cases layoutValue? document with
  | none => rfl
  | some value =>
    dsimp only
    cases readText (document.asMapping?.getD []) "name" "document" with
    | error fault => rfl
    | ok name =>
      cases readFrame (value.asMapping?.getD []) rootPath with
      | error fault => rfl
      | ok frame =>
        cases childrenIn (value.asMapping?.getD []) rootPath with
        | error fault => rfl
        | ok children => rfl

/-- The children of the root are read from the panes of its value. -/
theorem childrenIn_root {value : Document} {path : String} {frame : Frame}
    (h : readFrame (value.asMapping?.getD []) path = .ok frame) :
    childrenIn (value.asMapping?.getD []) path = nodesOf value.children path 0 := by
  obtain ⟨panes, hpanes, hchildren⟩ := childrenIn_of_readFrame h
  rw [hchildren, Document.children_of_panesIn? hpanes]

/-- Reading a tree, without the rule on focus, reports the rules that its document breaks.
-/
theorem reports_ofTree (document : Document) :
    (ofTree document).Reports document.violations := by
  rw [ofTree, Document.violations]
  cases layoutValue? document with
  | none => rfl
  | some root =>
    refine (reports_readText "document" "name" _).bind fun name _ => ?_
    refine (reports_readFrame rootPath _).bind fun frame hframe => ?_
    rw [childrenIn_root hframe]
    exact (reports_nodesOf (fun item _ path => reports_nodeOf item path) rootPath 0).map _

/-- As many nodes of a tree have focus as carry it in the document. -/
theorem focusCount_of_ofTree {document : Document} {layout : Layout}
    (h : ofTree document = .ok layout) : layout.root.focusCount = document.focusCount := by
  rw [ofTree] at h
  split at h
  · cases h
  · next value hvalue =>
    obtain ⟨name, -, h⟩ := Except.bind_eq_ok_iff.mp h
    obtain ⟨frame, hframe, h⟩ := Except.bind_eq_ok_iff.mp h
    obtain ⟨children, hchildren, h⟩ := Except.bind_eq_ok_iff.mp h
    cases h
    rw [childrenIn_root hframe] at hchildren
    have hrow : _ = (Document.walkRow "layout" 0 value.children).countP (·.2.carriesFocus) :=
      focusCount_of_nodesOf (fun item _ path node hnode => focusCount_of_nodeOf hnode) hchildren
    have hroot : frame.focus = value.carriesFocus := by
      rw [focus_of_readFrame hframe]
      cases hentries : value.asMapping? with
      | none =>
        rw [Document.carriesFocus, Document.get?, hentries]
        rfl
      | some entries => rw [carriesFocus_eq hentries, Option.getD_some]
    rw [Document.focusCount, hvalue]
    dsimp only
    rw [List.countP_cons, ← hrow, ← hroot, root, Node.focusCount, Node.placed, List.countP_cons]
    rfl

/-- A document that breaks rules fails with the first of them. -/
theorem ofDocument_of_head? {document : Document} {fault : Fault}
    (h : document.violations.head? = some fault) : ofDocument document = .error fault := by
  rw [ofDocument_eq, (reports_ofTree document).error_iff.mpr h]
  rfl

/-- A document that breaks no rule is a layout, or two of its nodes carry focus. -/
theorem ofDocument_of_violations_eq_nil {document : Document} (h : document.violations = []) :
    ∃ layout, ofDocument document =
      if 2 ≤ document.focusCount then .error (.multipleFocus (focusNames layout.root))
      else .ok layout := by
  obtain ⟨layout, hlayout⟩ := (reports_ofTree document).exists_ok_iff.mpr h
  refine ⟨layout, ?_⟩
  rw [ofDocument_eq, hlayout, ← focusCount_of_ofTree hlayout]
  show (checkFocus layout.root).map _ = _
  cases hcheck : checkFocus layout.root with
  | error fault =>
    obtain ⟨htwo, rfl⟩ := (checkFocus_eq_error_iff layout.root).mp hcheck
    rw [if_pos htwo]
    rfl
  | ok _ =>
    have hfew : ¬ 2 ≤ layout.root.focusCount := by
      intro htwo
      rw [(checkFocus_eq_error_iff layout.root).mpr ⟨htwo, rfl⟩] at hcheck
      cases hcheck
    rw [if_neg hfew]
    rfl

/-- **Reading fails with the first violation.** A document that breaks no rule is
read, or else fails the rule on focus, which it does exactly when two nodes carry
focus. A document that breaks rules fails with the first of them. -/
theorem ofDocument_first_violation (document : Document) :
    (((∃ layout, ofDocument document = .ok layout) ∨
        ∃ paths, ofDocument document = .error (.multipleFocus paths)) ↔
      document.violations = []) ∧
    ((∃ paths, ofDocument document = .error (.multipleFocus paths)) ↔
      document.violations = [] ∧ 2 ≤ document.focusCount) ∧
    ∀ fault rest, document.violations = fault :: rest →
      ofDocument document = .error fault := by
  cases hviolations : document.violations with
  | nil =>
    obtain ⟨layout, hlayout⟩ := ofDocument_of_violations_eq_nil hviolations
    rw [hlayout]
    refine ⟨?_, ?_, nofun⟩
    · by_cases htwo : 2 ≤ document.focusCount
      · simp [htwo]
      · simp [htwo]
    · by_cases htwo : 2 ≤ document.focusCount
      · simp [htwo]
      · simp [htwo]
  | cons fault rest =>
    have hhead : document.violations.head? = some fault := by
      rw [hviolations]
      rfl
    -- the first violation is the fault, and that is never about focus
    have hfocus := notAboutFocus_violations document fault (List.mem_of_mem_head? hhead)
    rw [ofDocument_of_head? hhead]
    refine ⟨?_, ?_, ?_⟩
    · simp [hfocus]
    · simp [hfocus]
    · intro first others heq
      cases heq
      rfl

/-- A wrong name, a ratio with a text in it and a child that is no mapping: the
name is found. -/
theorem ofDocument_first_violation_of_three :
    let document : Document := .mapping [(.string "name", .int 1), (.string "layout", .mapping
      [(.string "type", .string "vertical"),
        (.string "ratio", .sequence [.string "70", .int 30]),
        (.string "panes", .sequence [.null, .mapping []])])]
    document.violations.length = 3 ∧
      ofDocument document =
        .error (.invalidField "document" "name" "expected a string, found a number") := by
  intro document
  have hrow : Document.walkRow rootPath 0 [.null, .mapping []] =
      [(childPath rootPath 0, .null), (childPath rootPath 1, .mapping [])] := by
    have hleaf : ∀ path, Document.walkRow path 0 [] = [] := fun path => by rw [Document.walkRow]
    rw [Document.walkRow, Document.walk, Document.walkRow, Document.walk, Document.walkRow]
    show (_ :: Document.walkRow _ 0 []) ++ ((_ :: Document.walkRow _ 0 []) ++ []) = _
    rw [hleaf, hleaf]
    rfl
  have hviolations : document.violations =
      [wrongKind "document" "name" "a string" (.int 1),
        wrongKind "layout" "ratio" "a number" (.string "70"),
        wrongKind "layout.panes[0]" "panes" "a pane or container mapping" .null] := by
    show _ ++ (_ ++ violationsOf (Document.walkRow rootPath 0 [.null, .mapping []])) = _
    rw [hrow]
    rfl
  refine ⟨by rw [hviolations]; rfl, ?_⟩
  exact (ofDocument_first_violation document).2.2 _ _ hviolations

end Layout

end TmuxLayout
