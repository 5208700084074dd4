import Mathlib.Data.List.Forall2
import Mathlib.Logic.Relation
import TmuxLayout.Proofs.Layout.Pruning

/-!
# Edits that do not matter

Much of a document can be changed without the layout changing: the order of
entries, keys that a node has no use for, null in place of nothing, and whatever
stands for no focus. Such an edit changes one mapping, anywhere in a document, and
any number of them may follow each other in both directions. The outcome of reading
is the same, and so is the fault when the document is no layout.

- `Document.Role`: what a value stands for in a document, and with it which keys are
  known.
- `Document.Idle`: an entry that reading takes no notice of.
- `Document.Edit`: one edit, at any depth.
- `Document.Restates`: documents that are some edits apart.
- `Document.Found`: what an edit leaves of the value of a known key. Every field is read
  from it alone, and so is read the same: `readText_eq_of_found`, `readRatio_eq_of_found`
  and the like.
- `nodeOf_eq_of_edit`, `Layout.ofDocument_eq_of_edit`: one edit changes nothing.
- `Layout.ofDocument_restated`: no number of them does.
-/

namespace TmuxLayout

/-! ## Edits -/

namespace Document

/-- What a value stands for in a document. -/
inductive Role where
  /-- The whole document. -/
  | document
  /-- The layout, which is a container whatever its keys. -/
  | root
  /-- A pane or a container. -/
  | node
  /-- The children of a container. -/
  | row
  /-- Any other value. -/
  | other

namespace Role

/-- What the value of an entry stands for. -/
def ofEntry : Role → Document → Role
  | document, .string "layout" => root
  | root, .string "panes" => row
  | node, .string "panes" => row
  | _, _ => other

/-- What the items of a sequence stand for. -/
def ofItem : Role → Role
  | row => node
  | _ => other

/-- The keys that are known in the mapping of a node. A pane knows the type as well:
it must have none. -/
def fields? (role : Role) (entries : Entries) : Option (List String) :=
  match role with
  | document => some documentFields
  | root => some containerFields
  | node => some (if isContainer entries then containerFields else "type" :: paneFields)
  | row | other => none

end Role

/-- An entry that reading takes no notice of where the keys of some fields are
known: its key is none of them, or its value does not count. A type counts even when
it is null. -/
inductive Idle (fields : List String) : Document → Document → Prop
  | unknown {key value : Document} :
    (∀ field ∈ fields, key ≠ .string field) → Idle fields key value
  | nothing {field : String} {value : Document} :
    field ≠ "type" → counts field value = false → Idle fields (.string field) value

/-- One edit of a value: in some mapping the entries are put into another order, or
an idle entry is dropped. No key comes twice there. -/
inductive Edit : Role → Document → Document → Prop
  | reordered {role : Role} {entries others : Entries} :
    (entries.map Prod.fst).Nodup → entries.Perm others →
    Edit role (.mapping entries) (.mapping others)
  | dropped {role : Role} {fields : List String} {key value : Document} {entries : Entries} :
    key ∉ entries.map Prod.fst → role.fields? entries = some fields → Idle fields key value →
    Edit role (.mapping ((key, value) :: entries)) (.mapping entries)
  | entry {role : Role} {key value other : Document} {entries : Entries} :
    Edit (role.ofEntry key) value other →
    Edit role (.mapping ((key, value) :: entries)) (.mapping ((key, other) :: entries))
  | item {role : Role} {value other : Document} (before after : List Document) :
    Edit role.ofItem value other →
    Edit role (.sequence (before ++ value :: after)) (.sequence (before ++ other :: after))
  | tagged {role : Role} {tag : String} {value other : Document} :
    Edit role value other → Edit role (.tagged tag value) (.tagged tag other)

/-- Documents that are some edits apart, in either direction. -/
def Restates (document other : Document) : Prop :=
  Relation.EqvGen (Edit .document) document other

/-! ## Edited values -/

namespace Edit

variable {role : Role} {value other : Document}

theorem kind_eq (h : Edit role value other) : value.kind = other.kind := by
  cases h <;> rfl

/-- What is edited counts as given, before and after. -/
theorem isTruthy (h : Edit role value other) :
    value.isTruthy = true ∧ other.isTruthy = true := by
  cases h <;> exact ⟨rfl, rfl⟩

theorem asString?_eq (h : Edit role value other) : value.asString? = other.asString? := by
  induction h with
  | tagged _ ih => exact ih
  | _ => rfl

theorem asNumber?_eq (h : Edit role value other) : value.asNumber? = other.asNumber? := by
  induction h with
  | tagged _ ih => exact ih
  | _ => rfl

/-- The mapping that is seen through tags is edited, if there is one. -/
theorem rel_asMapping? (h : Edit role value other) :
    Option.Rel (fun entries others => Edit role (.mapping entries) (.mapping others))
      value.asMapping? other.asMapping? := by
  induction h with
  | reordered hnodup hperm => exact .some (.reordered hnodup hperm)
  | dropped hkey hfields hidle => exact .some (.dropped hkey hfields hidle)
  | entry hedit _ => exact .some (.entry hedit)
  | item => exact .none
  | tagged _ ih => exact ih

/-- Of the items that are seen through tags each is the same or edited. -/
theorem rel_asSequence? (h : Edit role value other) :
    Option.Rel (List.Forall₂ (Relation.ReflGen (Edit role.ofItem)))
      value.asSequence? other.asSequence? := by
  induction h with
  | @item role _ _ before after hedit _ =>
    have hsame (items : List Document) :
        List.Forall₂ (Relation.ReflGen (Edit role.ofItem)) items items :=
      List.forall₂_same.mpr fun _ _ => .refl
    exact .some (List.rel_append (hsame before) (.cons (.single hedit) (hsame after)))
  | tagged _ ih => exact ih
  | _ => exact .none

end Edit

/-! ## Fields -/

/-- What is found for a field before and after an edit of the mapping: the same, an
edited value, or nothing any more where the value did not count. -/
inductive Found (role : Role) (field : String) : Option Document → Option Document → Prop
  | same {value? : Option Document} : Found role field value? value?
  | dropped {value : Document} : field ≠ "type" → counts field value = false →
    Found role field (some value) none
  | edited {value other : Document} : Edit (role.ofEntry (.string field)) value other →
    Found role field (some value) (some other)

/-- Whatever the edit of a mapping, the known keys are found as they were. -/
theorem Edit.found {role : Role} {entries others : Entries}
    (h : Edit role (.mapping entries) (.mapping others)) {fields : List String}
    (hfields : role.fields? others = some fields) (field : String) (hfield : field ∈ fields) :
    Found role field (lookup? field entries) (lookup? field others) := by
  cases h with
  | reordered hnodup hperm =>
    rw [lookup?_perm hperm hnodup]
    exact .same
  | @dropped _ known key value _ hkey hknown hidle =>
    obtain rfl : known = fields := Option.some_inj.mp (hknown.symm.trans hfields)
    -- the entry is the one that is looked for, or it does not matter
    by_cases heq : key = .string field
    · subst heq
      rw [lookup?_cons_self, lookup?_eq_none hkey]
      cases hidle with
      | unknown hunknown => exact absurd rfl (hunknown field hfield)
      | nothing htype hcounts => exact .dropped htype hcounts
    · rw [lookup?_cons_of_ne heq]
      exact .same
  | @entry _ key value other rest hedit =>
    by_cases heq : key = .string field
    · subst heq
      rw [lookup?_cons_self, lookup?_cons_self]
      exact .edited hedit
    · rw [lookup?_cons_of_ne heq, lookup?_cons_of_ne heq]
      exact .same

end Document

open Document (Edit Found Role lookup?)

/-! ## Reading fields -/

section Reading

variable {role : Role} {field : String} {entries others : Entries}

/-- Of all values but those of focus, only null does not count. -/
theorem eq_null_of_counts (hfield : field ≠ "focus") {value : Document}
    (h : counts field value = false) : value = .null := by
  by_contra hvalue
  rw [counts_of_ne hfield hvalue] at h
  cases h

/-- A text is read the same way behind an edit: null and a missing entry are alike. -/
theorem readText_eq_of_found (hfield : field ≠ "focus")
    (h : Found role field (lookup? field entries) (lookup? field others)) (path : String) :
    readText entries field path = readText others field path := by
  rw [readText, readText]
  generalize lookup? field entries = value?, lookup? field others = other? at h ⊢
  cases h with
  | same => rfl
  | dropped _ hcounts =>
    rw [eq_null_of_counts hfield hcounts]
  | edited hedit => cases hedit <;> rfl

/-- Focus is read the same way behind an edit: only `true` itself counts. -/
theorem readFocus_eq_of_found
    (h : Found role "focus" (lookup? "focus" entries) (lookup? "focus" others)) :
    readFocus entries = readFocus others := by
  rw [readFocus, readFocus]
  generalize lookup? "focus" entries = value?, lookup? "focus" others = other? at h ⊢
  cases h with
  | same => rfl
  | dropped _ hcounts =>
    split
    · next hvalue =>
      cases hvalue
      exact absurd hcounts (by decide)
    · rfl
  | edited hedit => cases hedit <;> rfl

/-- An edit never adds or takes away a type. -/
theorem isContainer_eq_of_found
    (h : Found role "type" (lookup? "type" entries) (lookup? "type" others)) :
    isContainer entries = isContainer others := by
  rw [isContainer, isContainer]
  generalize lookup? "type" entries = value?, lookup? "type" others = other? at h ⊢
  cases h with
  | same => rfl
  | dropped htype _ => exact absurd rfl htype
  | edited => rfl

/-- A direction is read the same way behind an edit, and its fault too. -/
theorem readDirection_eq_of_found
    (h : Found role "type" (lookup? "type" entries) (lookup? "type" others)) (path : String) :
    readDirection entries path = readDirection others path := by
  rw [readDirection, readDirection]
  generalize lookup? "type" entries = value?, lookup? "type" others = other? at h ⊢
  cases h with
  | same => rfl
  | dropped htype _ => exact absurd rfl htype
  | @edited value other hedit =>
    have hfound : typeFound (some value) = typeFound (some other) := by
      cases hedit <;> rfl
    rw [Option.bind_some, Option.bind_some, hedit.asString?_eq, hfound]

theorem readWeights_eq_of_forall₂ {items others : List Document}
    (h : List.Forall₂ (Relation.ReflGen (Edit role)) items others) (path : String) :
    readWeights path items = readWeights path others := by
  induction h with
  | nil => rfl
  | @cons item other items others hitem _ ih =>
    have hnumber : item.asNumber? = other.asNumber? := by
      cases hitem with
      | refl => rfl
      | single hedit => exact hedit.asNumber?_eq
    have hkind : item.kind = other.kind := by
      cases hitem with
      | refl => rfl
      | single hedit => exact hedit.kind_eq
    rw [readWeights, readWeights, hnumber, ih, wrongKind, wrongKind, hkind]

/-- A ratio is read the same way behind an edit, and its fault too. -/
theorem readRatio_eq_of_found
    (h : Found role "ratio" (lookup? "ratio" entries) (lookup? "ratio" others))
    (childCount : Nat) (path : String) :
    readRatio entries childCount path = readRatio others childCount path := by
  rw [readRatio, readRatio]
  generalize lookup? "ratio" entries = value?, lookup? "ratio" others = other? at h ⊢
  cases h with
  | same => rfl
  | dropped _ hcounts =>
    rw [eq_null_of_counts (by decide) hcounts]
  | edited hedit =>
    have hitems := hedit.rel_asSequence?
    cases hedit with
    | item =>
      cases hitems with
      | some hitems =>
        dsimp only
        rw [readWeights_eq_of_forall₂ hitems, hitems.length_eq]
    | _ => rfl

end Reading

/-! ## Nodes -/

theorem nodesOf_eq_of_forall₂ {items others : List Document}
    (h : List.Forall₂ (Relation.ReflGen (Edit .node)) items others)
    (hitems : ∀ item ∈ items, ∀ other, Edit .node item other → ∀ path,
      nodeOf item path = nodeOf other path) (path : String) (index : Nat) :
    nodesOf items path index = nodesOf others path index := by
  induction h generalizing index with
  | nil => rfl
  | @cons item other items others hitem _ ih =>
    have hnode : nodeOf item (childPath path index) = nodeOf other (childPath path index) := by
      cases hitem with
      | refl => rfl
      | single hedit => exact hitems item List.mem_cons_self other hedit _
    rw [nodesOf, nodesOf, hnode,
      ih (fun item hitem => hitems item (List.mem_cons_of_mem _ hitem))]

section Container

variable {role : Role} {entries others : Entries}
  (h : Edit role (.mapping entries) (.mapping others))
  (hfields : role.fields? others = some containerFields)
  (hrow : role.ofEntry (.string "panes") = .row)

include h hfields hrow

/-- The children of a container are the same or edited. -/
theorem rel_panesIn? :
    Option.Rel (List.Forall₂ (Relation.ReflGen (Edit .node))) (panesIn? entries)
      (panesIn? others) := by
  have hfound := h.found hfields "panes" (by decide)
  rw [panesIn?, panesIn?]
  generalize lookup? "panes" entries = value?, lookup? "panes" others = other? at hfound ⊢
  cases hfound with
  | @same value? =>
    cases value?.bind Document.asSequence? with
    | none => exact .none
    | some items => exact .some (List.forall₂_same.mpr fun _ _ => .refl)
  | dropped _ hcounts =>
    rw [eq_null_of_counts (by decide) hcounts]
    exact .none
  | edited hedit =>
    rw [hrow] at hedit
    exact hedit.rel_asSequence?

/-- What a container has besides its children is read the same way behind an edit. -/
theorem readFrame_eq_of_edit (path : String) : readFrame entries path = readFrame others path := by
  have hpanes := rel_panesIn? h hfields hrow
  rw [readFrame, readFrame, readDirection_eq_of_found (h.found hfields "type" (by decide)),
    readFocus_eq_of_found (h.found hfields "focus" (by decide))]
  generalize panesIn? entries = items?, panesIn? others = others? at hpanes ⊢
  cases hpanes with
  | none => rfl
  | some hitems =>
    dsimp only
    rw [hitems.length_eq, readRatio_eq_of_found (h.found hfields "ratio" (by decide))]

theorem childrenIn_eq_of_edit
    (hitems : ∀ items, panesIn? entries = some items → ∀ item ∈ items, ∀ other,
      Edit .node item other → ∀ path, nodeOf item path = nodeOf other path) (path : String) :
    childrenIn entries path = childrenIn others path := by
  have hpanes := rel_panesIn? h hfields hrow
  rw [childrenIn_eq, childrenIn_eq]
  generalize panesIn? entries = items?, panesIn? others = others? at hpanes hitems ⊢
  cases hpanes with
  | none => rfl
  | some hforall => exact nodesOf_eq_of_forall₂ hforall (hitems _ rfl) path 0

end Container

/-- A pane is read the same way behind an edit. -/
theorem readPane_eq_of_edit {entries others : Entries}
    (h : Edit .node (.mapping entries) (.mapping others))
    (hpane : isContainer others = false) (path : String) :
    readPane entries path = readPane others path := by
  have hfields : Role.node.fields? others = some ("type" :: paneFields) := by
    rw [Role.fields?, hpane]
    rfl
  rw [readPane, readPane, readText_eq_of_found (by decide) (h.found hfields "name" (by decide)),
    readText_eq_of_found (by decide) (h.found hfields "command" (by decide)),
    readFocus_eq_of_found (h.found hfields "focus" (by decide))]

/-- One edit of a node changes nothing. -/
theorem nodeOf_eq_of_edit {document other : Document} (h : Edit .node document other)
    (path : String) : nodeOf document path = nodeOf other path := by
  induction document using Document.childInduction generalizing other path with
  | step document ih =>
    have hmapping := h.rel_asMapping?
    rw [nodeOf_eq, nodeOf_eq, wrongKind, wrongKind, h.kind_eq]
    generalize hentries : document.asMapping? = entries?, other.asMapping? = others? at hmapping ⊢
    cases hmapping with
    | none => rfl
    | @some entries others hedit =>
      dsimp only
      -- a type can neither come nor go, so the node stays of its kind
      have htype : isContainer entries = isContainer others := by
        refine isContainer_eq_of_found (hedit.found rfl "type" ?_)
        split <;> decide
      rw [htype]
      cases hcontainer : isContainer others with
      | true =>
        have hfields : Role.node.fields? others = some containerFields := by
          rw [Role.fields?, hcontainer]
          rfl
        have hchildren : childrenIn entries path = childrenIn others path := by
          refine childrenIn_eq_of_edit hedit hfields rfl (fun items hitems item hitem _ => ?_) path
          have hchild : item ∈ document.children := by
            rw [Document.children_eq hentries hitems]
            exact hitem
          exact ih item hchild
        rw [if_pos rfl, if_pos rfl, readFrame_eq_of_edit hedit hfields rfl, hchildren]
      | false =>
        rw [if_neg Bool.false_ne_true, if_neg Bool.false_ne_true,
          readPane_eq_of_edit hedit hcontainer]

/-! ## Layouts -/

namespace Layout

/-- The value of the layout is the same or edited. -/
theorem rel_layoutValue? {document other : Document} (h : Edit .document document other) :
    Option.Rel (Relation.ReflGen (Edit .root)) (layoutValue? document) (layoutValue? other) := by
  rw [layoutValue?, layoutValue?, Document.get?, Document.get?]
  have hmapping := h.rel_asMapping?
  generalize document.asMapping? = entries?, other.asMapping? = others? at hmapping ⊢
  cases hmapping with
  | none => exact .none
  | @some entries others hedit =>
    have hfound := hedit.found rfl "layout" (by decide)
    rw [Option.bind_some, Option.bind_some]
    generalize lookup? "layout" entries = value?, lookup? "layout" others = other? at hfound ⊢
    cases hfound with
    | @same value? =>
      cases value?.filter (·.isTruthy) with
      | none => exact .none
      | some value => exact .some .refl
    -- what was dropped is null, which does not count as given
    | dropped _ hcounts =>
      rw [eq_null_of_counts (by decide) hcounts]
      exact .none
    | edited hedit =>
      obtain ⟨hvalue, hother⟩ := hedit.isTruthy
      rw [Option.filter_some, Option.filter_some, if_pos hvalue, if_pos hother]
      exact .some (.single hedit)

/-- The name of a document is read the same way behind an edit. -/
theorem readName_eq_of_edit {document other : Document} (h : Edit .document document other) :
    readText (document.asMapping?.getD []) "name" "document" =
      readText (other.asMapping?.getD []) "name" "document" := by
  have hmapping := h.rel_asMapping?
  generalize document.asMapping? = entries?, other.asMapping? = others? at hmapping ⊢
  cases hmapping with
  | none => rfl
  | some hedit =>
    exact readText_eq_of_found (by decide) (hedit.found rfl "name" (by decide)) "document"

/-- The root is read as a container, whatever its keys, and is read the same. -/
theorem readRoot_eq_of_edit {value other : Document} (h : Edit .root value other) :
    readFrame (value.asMapping?.getD []) rootPath =
        readFrame (other.asMapping?.getD []) rootPath ∧
      childrenIn (value.asMapping?.getD []) rootPath =
        childrenIn (other.asMapping?.getD []) rootPath := by
  have hmapping := h.rel_asMapping?
  generalize value.asMapping? = entries?, other.asMapping? = others? at hmapping ⊢
  cases hmapping with
  | none => exact ⟨rfl, rfl⟩
  | some hedit =>
    exact ⟨readFrame_eq_of_edit hedit rfl rfl rootPath,
      childrenIn_eq_of_edit hedit rfl rfl (fun _ _ _ _ _ => nodeOf_eq_of_edit) rootPath⟩

/-- One edit of a document changes nothing. -/
theorem ofDocument_eq_of_edit {document other : Document} (h : Edit .document document other) :
    Layout.ofDocument document = Layout.ofDocument other := by
  have hvalue := rel_layoutValue? h
  rw [ofDocument, ofDocument, readName_eq_of_edit h]
  generalize layoutValue? document = value?, layoutValue? other = other? at hvalue ⊢
  cases hvalue with
  | none => rfl
  | some hvalue =>
    cases hvalue with
    | refl => rfl
    | single hedit =>
      obtain ⟨hframe, hchildren⟩ := readRoot_eq_of_edit hedit
      dsimp only
      rw [hframe, hchildren]

/-- **What a document says beside the point does not matter.** Documents that differ
in the order of entries, in keys that their nodes have no use for, in nulls and in what
stands for no focus, anywhere and in any number, are the same layout, or fail with the
same fault. -/
theorem ofDocument_restated {document other : Document} (h : document.Restates other) :
    Layout.ofDocument document = Layout.ofDocument other := by
  induction h with
  | rel document other hedit => exact ofDocument_eq_of_edit hedit
  | refl document => rfl
  | symm document other _ ih => exact ih.symm
  | trans first second third _ _ ihfirst ihsecond => exact ihfirst.trans ihsecond

/-- A document whose second node has no proper type. -/
def terseDocument : Document :=
  .mapping [(.string "layout", .mapping [
    (.string "type", .string "horizontal"),
    (.string "panes", .sequence [
      .mapping [(.string "name", .string "editor")],
      .mapping [(.string "type", .null)]])])]

/-- The same with a version, a name that is null, a focus that is none, panes in a
pane, a command in a container and another order. -/
def verboseDocument : Document :=
  .mapping [(.string "version", .int 2), (.string "name", .null),
    (.string "layout", .mapping [
      (.string "panes", .sequence [
        .mapping [(.string "focus", .string "yes"), (.string "panes", .int 3),
          (.string "name", .string "editor")],
        .mapping [(.string "command", .string "vi"), (.string "type", .null)]]),
      (.string "type", .string "horizontal")])]

theorem ofDocument_restated_verbose :
    verboseDocument.Restates terseDocument ∧
      Layout.ofDocument verboseDocument = Layout.ofDocument terseDocument ∧
      Layout.ofDocument terseDocument =
        .error (.invalidContainerType "layout.panes[1]" "null") := by
  have hunknown (key : String) (fields : List String) (value : Document) (h : key ∉ fields) :
      Document.Idle fields (.string key) value :=
    .unknown fun field hfield heq => h (Document.string.inj heq ▸ hfield)
  have hrestates : verboseDocument.Restates terseDocument := by
    -- the document, its two nodes from left to right, and the order of the root
    refine .trans _ _ _ (.rel _ _ (.dropped (by simp) rfl (hunknown _ _ _ (by decide)))) ?_
    refine .trans _ _ _ (.rel _ _ (.dropped (by simp) rfl (.nothing (by decide) rfl))) ?_
    refine .trans _ _ _ (.rel _ _ (.entry (.entry (.item [] _
      (.dropped (by simp) rfl (.nothing (by decide) rfl)))))) ?_
    refine .trans _ _ _ (.rel _ _ (.entry (.entry (.item [] _
      (.dropped (by simp) rfl (hunknown _ _ _ (by decide))))))) ?_
    refine .trans _ _ _ (.rel _ _ (.entry (.entry (.item [_] []
      (.dropped (by simp) rfl (hunknown _ _ _ (by decide))))))) ?_
    exact .rel _ _ (.entry (.reordered (by simp) (.swap _ _ [])))
  exact ⟨hrestates, ofDocument_restated hrestates, rfl⟩

end Layout

end TmuxLayout
