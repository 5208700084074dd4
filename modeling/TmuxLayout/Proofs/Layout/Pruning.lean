import Mathlib.Data.List.Nodup
import TmuxLayout.Proofs.Layout.Mirroring
import TmuxLayout.Proofs.Layout.Writing

/-!
# Writing out what was read

A layout that was read and is written out again gives back its document, less what
reading takes no notice of. Entries come out in an order of their own, so documents
are compared without regard to it.

- `Document.Alike`: equality up to the order of entries.
- `Document.hasDistinctKeys`: no mapping in a document has a key twice.
- `Document.pruned`, `Document.prunedLayout`: a document without unknown keys, tags,
  nulls and focus that is not true, and with all numbers as doubles.
- `perm_prunedEntries`: what stays of a mapping, field by field.
- `alike_of_nodeOf`: a node that was read is written as what stays of its document.
- `Layout.mirrors_of_ofDocument`: a layout says what its document says, at every
  place, and is written as what stays of it.
-/

namespace TmuxLayout

open Document (lookup?)

/-! ## Documents without order -/

namespace Document

/-- Equality of documents up to the order of entries. -/
inductive Alike : Document → Document → Prop
  | refl (document : Document) : Alike document document
  | sequence {items others : List Document} :
    List.Forall₂ Alike items others → Alike (.sequence items) (.sequence others)
  | mapping {entries middle others : Entries} :
    entries.map Prod.fst = middle.map Prod.fst →
    List.Forall₂ Alike (entries.map Prod.snd) (middle.map Prod.snd) →
    middle.Perm others → Alike (.mapping entries) (.mapping others)

mutual

/-- Whether no mapping in a document has a key twice. -/
def hasDistinctKeys : Document → Bool
  | sequence items => itemsHaveDistinctKeys items
  | mapping entries => entriesHaveDistinctKeys entries
  | tagged _ value => value.hasDistinctKeys
  | null | bool _ | int _ | float _ | string _ => true

/-- Whether no mapping in a row of documents has a key twice. -/
def itemsHaveDistinctKeys : List Document → Bool
  | [] => true
  | item :: items => item.hasDistinctKeys && itemsHaveDistinctKeys items

/-- Whether entries have no key twice, and no mapping in their values has. -/
def entriesHaveDistinctKeys : List (Document × Document) → Bool
  | [] => true
  | (key, value) :: entries =>
    !hasKey entries key && value.hasDistinctKeys && entriesHaveDistinctKeys entries

end

end Document

/-! ## What stays of a document -/

/-- The keys that a container knows. -/
def containerFields : List String := ["type", "panes", "ratio", "focus"]

/-- The keys that a pane knows. -/
def paneFields : List String := ["name", "command", "focus"]

/-- The keys that a document of a layout knows. -/
def documentFields : List String := ["name", "layout"]

/-- The keys that the node of a mapping knows. -/
def fieldsOf (entries : Entries) : List String :=
  if isContainer entries then containerFields else paneFields

/-- Whether the value of a field counts: null is no value, and no focus but true is
one. -/
def counts : String → Document → Bool
  | _, .null => false
  | _, .bool true => true
  | key, _ => key ≠ "focus"

namespace Document

mutual

/-- A document without unknown keys, tags, nulls and focus that is not true, and
with all numbers as doubles. -/
def pruned : Document → Document
  | int value => .float (Binary64.ofInt value)
  | sequence items => .sequence (prunedItems items)
  | mapping entries => .mapping (prunedEntries (fieldsOf entries) entries)
  | tagged _ value => value.pruned
  | value => value

/-- What stays of a row of documents. -/
def prunedItems : List Document → List Document
  | [] => []
  | item :: items => item.pruned :: prunedItems items

/-- What stays of entries among which the keys of some fields are known. -/
def prunedEntries (fields : List String) : List (Document × Document) → Entries
  | [] => []
  | (key, value) :: entries =>
    match key with
    | string text =>
      if fields.contains text && counts text value then
        (string text, value.pruned) :: prunedEntries fields entries
      else prunedEntries fields entries
    | _ => prunedEntries fields entries

end

/-- What stays of a document with a layout. -/
def prunedLayout (document : Document) : Document :=
  .mapping (prunedEntries documentFields (document.asMapping?.getD []))

end Document

open Document (pruned prunedItems prunedEntries)

/-- What stays of the value of a field. -/
def kept (entries : Entries) (key : String) : Option Document :=
  ((lookup? key entries).filter (counts key)).map pruned

/-! ## Distinct keys -/

namespace Document

theorem hasDistinctKeys_untagged {document : Document} (h : document.hasDistinctKeys = true) :
    document.untagged.hasDistinctKeys = true := by
  fun_induction untagged document with
  | case1 tag value ih => exact ih (by rwa [hasDistinctKeys] at h)
  | case2 => exact h

theorem hasDistinctKeys_of_mem {items : List Document} {item : Document}
    (h : itemsHaveDistinctKeys items = true) (hitem : item ∈ items) :
    item.hasDistinctKeys = true := by
  induction items with
  | nil => cases hitem
  | cons other items ih =>
    rw [itemsHaveDistinctKeys, Bool.and_eq_true] at h
    cases hitem with
    | head => exact h.1
    | tail _ hitem => exact ih h.2 hitem

/-- The first key does not come again, and keys are distinct behind it. -/
theorem entriesHaveDistinctKeys_cons {key value : Document} {entries : Entries}
    (h : entriesHaveDistinctKeys ((key, value) :: entries) = true) :
    hasKey entries key = false ∧ value.hasDistinctKeys = true ∧
      entriesHaveDistinctKeys entries = true := by
  rw [entriesHaveDistinctKeys, Bool.and_eq_true, Bool.and_eq_true, Bool.not_eq_true'] at h
  exact ⟨h.1.1, h.1.2, h.2⟩

theorem hasKey_of_mem {text : String} {value : Document} {entries : Entries}
    (h : (string text, value) ∈ entries) : hasKey entries (string text) = true :=
  List.any_eq_true.mpr ⟨_, h, by simp [sameAs]⟩

/-- Where no key comes twice, the entries with a text for a key are those that are
found. -/
theorem lookup?_eq_some_iff_mem {entries : Entries} (h : entriesHaveDistinctKeys entries = true)
    {key : String} {value : Document} :
    lookup? key entries = some value ↔ (string key, value) ∈ entries := by
  induction entries with
  | nil => exact ⟨nofun, nofun⟩
  | cons entry entries ih =>
    obtain ⟨other, first⟩ := entry
    obtain ⟨hother, -, hrest⟩ := entriesHaveDistinctKeys_cons h
    rw [List.mem_cons, Prod.mk.injEq]
    by_cases hkey : other = string key
    · subst hkey
      have hnot : (string key, value) ∉ entries := fun hmem =>
        Bool.false_ne_true (hother.symm.trans (hasKey_of_mem hmem))
      rw [lookup?_cons_self, Option.some_inj]
      exact ⟨fun heq => .inl ⟨rfl, heq.symm⟩,
        fun hor => (hor.resolve_right hnot).2.symm⟩
    · rw [lookup?_cons_of_ne hkey, ih hrest]
      exact ⟨.inr, fun hor => hor.resolve_left fun heq => hkey heq.1.symm⟩

theorem hasDistinctKeys_of_lookup? {entries : Entries}
    (h : entriesHaveDistinctKeys entries = true) {key : String} {value : Document}
    (hvalue : lookup? key entries = some value) : value.hasDistinctKeys = true := by
  induction entries with
  | nil => cases hvalue
  | cons entry entries ih =>
    obtain ⟨other, first⟩ := entry
    obtain ⟨-, hfirst, hrest⟩ := entriesHaveDistinctKeys_cons h
    by_cases hkey : other = string key
    · rw [hkey, lookup?_cons_self, Option.some_inj] at hvalue
      exact hvalue ▸ hfirst
    · rw [lookup?_cons_of_ne hkey] at hvalue
      exact ih hrest hvalue

/-- The entries of a mapping, tagged or not, have distinct keys where the document has. -/
theorem entriesHaveDistinctKeys_of_untagged {document : Document} {entries : Entries}
    (h : document.hasDistinctKeys = true) (hentries : document.untagged = .mapping entries) :
    entriesHaveDistinctKeys entries = true := by
  have huntagged := hasDistinctKeys_untagged h
  rwa [hentries, hasDistinctKeys] at huntagged

end Document

/-! ## Entries that stay -/

/-- What stays of an entry among which the keys of some fields are known. -/
def prunedEntry (fields : List String) : Document × Document → Option (Document × Document)
  | (.string text, value) =>
    if fields.contains text && counts text value then some (.string text, value.pruned) else none
  | _ => none

theorem prunedEntries_eq_filterMap (fields : List String) (entries : Entries) :
    prunedEntries fields entries = entries.filterMap (prunedEntry fields) := by
  induction entries with
  | nil => rfl
  | cons entry entries ih =>
    obtain ⟨key, value⟩ := entry
    rw [List.filterMap_cons, ← ih]
    cases key with
    | string text =>
      rw [prunedEntries, prunedEntry]
      split
      · rfl
      · rfl
    | _ => rfl

/-- An entry stays when its key is a known text and its value counts. -/
theorem prunedEntry_eq_some_iff {fields : List String} {entry : Document × Document}
    {key value : Document} :
    prunedEntry fields entry = some (key, value) ↔
      ∃ text inner, entry = (.string text, inner) ∧ key = .string text ∧ text ∈ fields ∧
        counts text inner = true ∧ value = inner.pruned := by
  constructor
  · intro h
    rw [prunedEntry.eq_def] at h
    split at h
    · next text inner =>
      split at h
      · next hstays =>
        rw [Bool.and_eq_true, List.contains_iff_mem] at hstays
        cases h
        exact ⟨text, inner, rfl, rfl, hstays.1, hstays.2, rfl⟩
      · cases h
    · cases h
  · rintro ⟨text, inner, rfl, rfl, hfield, hcounts, rfl⟩
    rw [prunedEntry, if_pos]
    rw [Bool.and_eq_true, List.contains_iff_mem]
    exact ⟨hfield, hcounts⟩

/-- What stays are the known fields whose values count, pruned. -/
theorem mem_prunedEntries {fields : List String} {entries : Entries} {key value : Document} :
    (key, value) ∈ prunedEntries fields entries ↔
      ∃ text inner, key = .string text ∧ text ∈ fields ∧ (.string text, inner) ∈ entries ∧
        counts text inner = true ∧ value = inner.pruned := by
  rw [prunedEntries_eq_filterMap, List.mem_filterMap]
  constructor
  · rintro ⟨entry, hmem, hstays⟩
    obtain ⟨text, inner, rfl, hkey, hfield, hcounts, hvalue⟩ := prunedEntry_eq_some_iff.mp hstays
    exact ⟨text, inner, hkey, hfield, hmem, hcounts, hvalue⟩
  · rintro ⟨text, inner, hkey, hfield, hmem, hcounts, hvalue⟩
    exact ⟨_, hmem, prunedEntry_eq_some_iff.mpr
      ⟨text, inner, rfl, hkey, hfield, hcounts, hvalue⟩⟩

theorem mem_field {key : Document} {text : String} {value : Document}
    {content : Option Document} :
    (key, value) ∈ field text content ↔ key = .string text ∧ content = some value := by
  cases content with
  | none => simp [field]
  | some inner => simp [field, eq_comm]

/-- What stays of entries with distinct keys has no entry twice. -/
theorem nodup_prunedEntries (fields : List String) {entries : Entries}
    (h : Document.entriesHaveDistinctKeys entries = true) :
    (prunedEntries fields entries).Nodup := by
  induction entries with
  | nil => exact List.nodup_nil
  | cons entry entries ih =>
    obtain ⟨first, inner⟩ := entry
    obtain ⟨hfirst, -, hrest⟩ := Document.entriesHaveDistinctKeys_cons h
    cases first with
    | string text =>
      rw [prunedEntries]
      split
      · refine List.nodup_cons.mpr ⟨fun hmem => ?_, ih hrest⟩
        obtain ⟨text', inner', hkey, -, hmem, -, -⟩ := mem_prunedEntries.mp hmem
        rw [← hkey] at hmem
        exact Bool.false_ne_true (hfirst.symm.trans (Document.hasKey_of_mem hmem))
      · exact ih hrest
    | _ => exact ih hrest

/-- What stays of a mapping without a key twice is what stays of each field, in some
order. -/
theorem perm_prunedEntries {fields : List String} (hfields : fields.Nodup) {entries : Entries}
    (h : Document.entriesHaveDistinctKeys entries = true) :
    (fields.flatMap fun key => field key (kept entries key)).Perm
      (prunedEntries fields entries) := by
  have hnodup : (fields.flatMap fun key => field key (kept entries key)).Nodup := by
    refine List.nodup_flatMap.mpr ⟨fun key _ => ?_, hfields.imp fun {key other} hne => ?_⟩
    · cases kept entries key with
      | none => exact List.nodup_nil
      | some value => exact List.nodup_singleton _
    · rintro ⟨key', value⟩ hkey hother
      exact hne (Document.string.inj ((mem_field.mp hkey).1.symm.trans (mem_field.mp hother).1))
  -- no entry comes twice on either side, so it is enough to have the same ones
  refine (List.perm_ext_iff_of_nodup hnodup (nodup_prunedEntries fields h)).mpr ?_
  rintro ⟨key, value⟩
  rw [List.mem_flatMap, mem_prunedEntries]
  simp only [mem_field, kept, Option.map_eq_some_iff, Option.filter_eq_some_iff,
    Document.lookup?_eq_some_iff_mem h]
  constructor
  · rintro ⟨text, hfield, hkey, inner, ⟨hmem, hcounts⟩, hvalue⟩
    exact ⟨text, inner, hkey, hfield, hmem, hcounts, hvalue.symm⟩
  · rintro ⟨text, inner, hkey, hfield, hmem, hcounts, hvalue⟩
    exact ⟨text, hfield, hkey, inner, ⟨hmem, hcounts⟩, hvalue.symm⟩

/-! ## Fields that stay -/

/-- Nothing stays of a tag. -/
theorem pruned_untagged (document : Document) : document.untagged.pruned = document.pruned := by
  fun_induction Document.untagged document with
  | case1 tag value ih => rw [ih, pruned]
  | case2 => rfl

theorem counts_of_ne {key : String} (hkey : key ≠ "focus") {value : Document}
    (hvalue : value ≠ .null) : counts key value = true := by
  rw [counts.eq_def]
  split
  · exact absurd rfl hvalue
  · rfl
  · exact decide_eq_true hkey

/-- Outside focus, a value that is found is kept unless it is null. -/
theorem kept_of_lookup? {entries : Entries} {key : String} (hkey : key ≠ "focus")
    {value : Document} (h : lookup? key entries = some value) (hvalue : value ≠ .null) :
    kept entries key = some value.pruned := by
  rw [kept, h, Option.filter_some, if_pos (counts_of_ne hkey hvalue), Option.map_some]

/-- A value inside tags is kept without them. -/
theorem kept_of_untagged {entries : Entries} {key : String} (hkey : key ≠ "focus")
    {inner : Document} (h : (lookup? key entries).map Document.untagged = some inner)
    (hinner : inner ≠ .null) : kept entries key = some inner.pruned := by
  obtain ⟨value, hvalue, rfl⟩ := Option.map_eq_some_iff.mp h
  rw [kept_of_lookup? hkey hvalue fun hnull => hinner (by rw [hnull, Document.untagged]; nofun),
    pruned_untagged]

/-- Nothing stays of a field that is missing or null. -/
theorem kept_of_nothing {entries : Entries} {key : String}
    (h : lookup? key entries = none ∨ lookup? key entries = some .null) :
    kept entries key = none := by
  cases h with
  | inl h =>
    rw [kept, h]
    rfl
  | inr h =>
    rw [kept, h]
    rfl

/-- Of a text field what the node has is kept. -/
theorem kept_text {entries : Entries} {key : String} (hkey : key ≠ "focus")
    {text : Option String} (h : Says entries key text) :
    kept entries key = text.map .string := by
  cases text with
  | none => exact kept_of_nothing h
  | some text =>
    rw [kept_of_lookup? hkey h nofun, Option.map_some, pruned]
    all_goals nofun

/-- Of the field for focus `true` is kept, and nothing else. -/
theorem kept_focus {entries : Entries} {focus : Bool} (h : SaysFocus entries focus) :
    field "focus" (kept entries "focus") = focusField focus := by
  rw [focusField, kept]
  cases focus with
  | true =>
    rw [h.mp rfl]
    rfl
  | false =>
    -- without focus no value but `true` can stand there, and none of the others counts
    have hnot : ∀ value, lookup? "focus" entries = some value →
        counts "focus" value = false := by
      intro value hvalue
      rw [counts.eq_def]
      split
      · rfl
      · exact absurd (h.mpr hvalue) Bool.false_ne_true
      · rfl
    cases hvalue : lookup? "focus" entries with
    | none => rfl
    | some value =>
      rw [Option.filter_some, hnot value hvalue]
      rfl

/-- Numbers are kept as the doubles that they are read as. -/
theorem prunedItems_of_asNumber? {numbers : List Document} {weights : List Float}
    (h : numbers.map Document.asNumber? = weights.map some) :
    prunedItems numbers = weights.map .float := by
  induction numbers generalizing weights with
  | nil =>
    rw [List.map_nil, List.nil_eq, List.map_eq_nil_iff] at h
    rw [h]
    rfl
  | cons number numbers ih =>
    cases weights with
    | nil => cases h
    | cons weight weights =>
      rw [List.map_cons, List.map_cons, List.cons.injEq] at h
      have hnumber : number.pruned = .float weight := by
        have hview := h.1
        rw [Document.asNumber?] at hview
        -- tags do not show, neither in the number nor in what stays of it
        rw [← pruned_untagged]
        split at hview
        · next value hvalue =>
          rw [hvalue, pruned, Option.some_inj.mp hview]
        · next value hvalue =>
          rw [hvalue, ← Option.some_inj.mp hview]
          rfl
        · cases hview
      rw [prunedItems, List.map_cons, hnumber, ih h.2]

/-- Of a ratio its weights are kept. -/
theorem kept_ratio {entries : Entries} {ratio : Option (List Float)}
    (h : SaysWeights entries ratio) : kept entries "ratio" = ratio.map weightsDocument := by
  cases ratio with
  | none => exact kept_of_nothing h
  | some weights =>
    obtain ⟨numbers, hnumbers, hweights⟩ := h
    rw [kept_of_lookup? (by decide) hnumbers nofun, pruned, prunedItems_of_asNumber? hweights]
    rfl

/-! ## Nodes -/

/-- A pane is written as the fields that are kept of its entries. -/
theorem entries_of_paneMirrors {entries : Entries} {pane : Pane} (h : pane.Mirrors entries) :
    pane.entries = paneFields.flatMap fun key => field key (kept entries key) := by
  rw [Pane.entries, paneFields]
  simp only [List.flatMap_cons, List.flatMap_nil, List.append_nil, List.append_assoc]
  rw [kept_text (by decide) h.name, kept_text (by decide) h.command, kept_focus h.focus]

/-- A container is written as the fields that are kept of its entries, around its
children. -/
theorem entries_of_frameMirrors {entries : Entries} {frame : Frame} {items : List Document}
    (h : frame.Mirrors entries items) :
    frame.entries (prunedItems items) =
      containerFields.flatMap fun key => field key (kept entries key) := by
  rw [Frame.entries, containerFields]
  simp only [List.flatMap_cons, List.flatMap_nil, List.append_nil, List.append_assoc]
  rw [kept_of_untagged (by decide) h.type (by simp),
    kept_of_untagged (by decide) h.panes (by simp), kept_ratio h.ratio, kept_focus h.focus]
  rfl

theorem alike_of_perm {entries others : Entries} (h : entries.Perm others) :
    (Document.mapping entries).Alike (.mapping others) :=
  .mapping rfl (List.forall₂_same.mpr fun value _ => .refl value) h

/-- Frames are written alike where the documents of their children are. -/
theorem alike_frame (frame : Frame) {children others : List Document}
    (h : List.Forall₂ Document.Alike children others) {entries : Entries}
    (hentries : (frame.entries others).Perm entries) :
    (Document.mapping (frame.entries children)).Alike (.mapping entries) := by
  refine .mapping ?_ ?_ hentries
  · rfl
  · exact .cons (.refl _) (.cons (.sequence h)
      (List.forall₂_same.mpr fun value _ => .refl value))

/-- Rows whose members are written alike are written alike. -/
theorem alike_documents {items : List Document} {children : List Node}
    (h : List.Forall₂ (fun item node => node.document.Alike item.pruned) items children) :
    List.Forall₂ Document.Alike (documents children) (prunedItems items) := by
  induction h with
  | nil => exact .nil
  | cons hfirst _ ih => exact .cons hfirst ih

theorem hasDistinctKeys_of_mem_items {entries : Entries}
    (h : Document.entriesHaveDistinctKeys entries = true) {items : List Document}
    (hitems : (lookup? "panes" entries).map Document.untagged = some (.sequence items))
    {item : Document} (hitem : item ∈ items) : item.hasDistinctKeys = true := by
  obtain ⟨value, hvalue, huntagged⟩ := Option.map_eq_some_iff.mp hitems
  have hsequence := Document.hasDistinctKeys_untagged
    (Document.hasDistinctKeys_of_lookup? h hvalue)
  rw [huntagged, Document.hasDistinctKeys] at hsequence
  exact Document.hasDistinctKeys_of_mem hsequence hitem

/-- A node that was read is written as what stays of its document. -/
theorem alike_of_nodeOf {document : Document} {path : String} {node : Node}
    (h : nodeOf document path = .ok node) (hkeys : document.hasDistinctKeys = true) :
    node.document.Alike document.pruned := by
  induction document using Document.childInduction generalizing path node with
  | step document ih =>
    obtain ⟨entries, hentries, hnode⟩ := nodeOf_cases h
    have hdistinct := Document.entriesHaveDistinctKeys_of_untagged hkeys hentries
    rw [← pruned_untagged, hentries, pruned]
    rcases hnode with ⟨hpane, -, pane, rfl, hmirrors⟩ |
      ⟨hcontainer, frame, children, rfl, hmirrors, hchildren⟩
    · have hfields : fieldsOf entries = paneFields := by
        rw [fieldsOf, hpane, if_neg Bool.false_ne_true]
      rw [hfields, Node.document, entries_of_paneMirrors hmirrors]
      exact alike_of_perm (perm_prunedEntries (by decide) hdistinct)
    · have hfields : fieldsOf entries = containerFields := by
        rw [fieldsOf, hcontainer, if_pos rfl]
      have hinner : document.inner = document.children :=
        Document.inner_container (by rw [Document.asMapping?, hentries]) hcontainer
      -- the induction speaks of documents right below, so of nodes that came from them
      have halike : List.Forall₂ (fun item node => node.document.Alike item.pruned)
          document.inner children := by
        refine ((List.forall₂_and_left _ _).mpr ⟨fun item hitem => hitem, hchildren⟩).imp ?_
        rintro item child ⟨hitem, path, hchild⟩
        exact ih item (hinner ▸ hitem) hchild
          (hasDistinctKeys_of_mem_items hdistinct hmirrors.panes hitem)
      rw [hfields, Node.document]
      refine alike_frame frame (alike_documents halike) ?_
      rw [entries_of_frameMirrors hmirrors]
      exact perm_prunedEntries (by decide) hdistinct

/-! ## Layouts -/

namespace Layout

/-- The root of a layout that was read is read as any node is. -/
theorem nodeOf_of_ofDocument {document : Document} {layout : Layout}
    (h : Layout.ofDocument document = .ok layout) :
    ∃ value, layoutValue? document = some value ∧
      Says (document.asMapping?.getD []) "name" layout.name ∧
      nodeOf value rootPath = .ok layout.root := by
  obtain ⟨value, hvalue, hname, hframe, hchildren, -⟩ := ofDocument_eq_ok h
  refine ⟨value, hvalue, says_of_readText hname, ?_⟩
  obtain ⟨items, hitems, hmirrors⟩ := mirrors_of_readFrame hframe
  rw [nodeOf_eq]
  cases hentries : value.asMapping? with
  | none =>
    rw [hentries] at hitems
    cases hitems
  | some entries =>
    rw [hentries, Option.getD_some] at hframe hchildren hmirrors
    have hcontainer : isContainer entries = true := by
      obtain ⟨type, htype, -⟩ := Option.map_eq_some_iff.mp hmirrors.type
      rw [isContainer, htype, Option.isSome_some]
    dsimp only
    rw [if_pos hcontainer, hframe, hchildren]
    rfl

/-- A layout that counts as given is found, and is not null. -/
theorem get?_of_layoutValue? {document value : Document}
    (h : layoutValue? document = some value) :
    document.get? "layout" = some value ∧ value ≠ .null := by
  obtain ⟨hget, htruthy⟩ := Option.filter_eq_some_iff.mp h
  refine ⟨hget, fun hnull => ?_⟩
  rw [hnull] at htruthy
  cases htruthy

/-- A layout that was read is written as what stays of its document. -/
theorem alike_of_ofDocument {document : Document} {layout : Layout}
    (h : Layout.ofDocument document = .ok layout) (hkeys : document.hasDistinctKeys = true) :
    layout.document.Alike document.prunedLayout := by
  obtain ⟨value, hvalue, hname, hroot⟩ := nodeOf_of_ofDocument h
  obtain ⟨hget, hnull⟩ := get?_of_layoutValue? hvalue
  obtain ⟨entries, hentries, hlookup⟩ := Option.bind_eq_some_iff.mp hget
  have hdistinct := Document.entriesHaveDistinctKeys_of_untagged hkeys
    (Document.untagged_eq_of_asMapping? hentries)
  have halike := alike_of_nodeOf hroot (Document.hasDistinctKeys_of_lookup? hdistinct hlookup)
  rw [hentries, Option.getD_some] at hname
  rw [Document.prunedLayout, hentries, Option.getD_some]
  have hfields : (field "name" (layout.name.map .string) ++
      field "layout" (some value.pruned)).Perm (prunedEntries documentFields entries) := by
    have hperm : (documentFields.flatMap fun key => field key (kept entries key)).Perm
        (prunedEntries documentFields entries) := perm_prunedEntries (by decide) hdistinct
    simp only [documentFields, List.flatMap_cons, List.flatMap_nil, List.append_nil] at hperm
    rwa [kept_text (by decide) hname, kept_of_lookup? (by decide) hlookup hnull] at hperm
  rw [Layout.document]
  -- the order of entries is settled by then; a missing name has no entry at all
  generalize layout.name = name at hfields ⊢
  cases name with
  | none =>
    refine .mapping ?_ ?_ hfields
    · rfl
    · exact .cons halike .nil
  | some name =>
    refine .mapping ?_ ?_ hfields
    · rfl
    · exact .cons (.refl _) (.cons halike .nil)

/-- **A layout that was read says what its document says.** Below the entry for the
layout there is a node at every place where the document has one, and nowhere else;
it is a container exactly where there is a type, and its direction, ratio, name,
command and focus are those of the document. Written out, the layout is the document
without what reading takes no notice of. -/
theorem mirrors_of_ofDocument {document : Document} {layout : Layout}
    (h : Layout.ofDocument document = .ok layout) :
    ∃ root, document.get? "layout" = some root ∧
      Says (document.asMapping?.getD []) "name" layout.name ∧
      (∀ place, Option.Rel Node.Mirrors (root.at? place) (layout.root.at? place)) ∧
      (document.hasDistinctKeys = true → layout.document.Alike document.prunedLayout) := by
  obtain ⟨value, hvalue, hname, hroot⟩ := nodeOf_of_ofDocument h
  exact ⟨value, (get?_of_layoutValue? hvalue).1, hname, rel_at?_of_nodeOf hroot,
    alike_of_ofDocument h⟩

/-- A document whose layout has a tag, a null, an empty name and a key that is not
known. -/
def decoratedDocument : Document :=
  .mapping [(.string "version", .int 2),
    (.string "layout", .tagged "!window" (.mapping [
      (.string "panes", .sequence [
        .mapping [(.string "name", .string ""), (.string "focus", .string "yes")],
        .mapping [(.string "type", .string "vertical"), (.string "ratio", .null),
          (.string "panes", .tagged "!row" (.sequence []))]]),
      (.string "type", .string "horizontal"),
      (.string "ratio", .sequence [.int 70, .int 30])]))]

/-- The layout of that document. -/
def plainLayout : Layout :=
  ⟨none, (Frame.plain .horizontal).withRatio [70.0, 30.0],
    [.pane (.named ""), .container (.plain .vertical) []]⟩

theorem mirrors_of_ofDocument_decorated :
    Layout.ofDocument decoratedDocument = .ok plainLayout ∧
      decoratedDocument.hasDistinctKeys = true ∧
      plainLayout.document.Alike decoratedDocument.prunedLayout := by
  have hweights : [Binary64.ofInt 70, Binary64.ofInt 30] = [70.0, 30.0] := by decide +kernel
  have hread : Layout.ofDocument decoratedDocument = .ok plainLayout := by
    rw [plainLayout, ← hweights]
    rfl
  have hkeys : decoratedDocument.hasDistinctKeys = true := by rfl
  obtain ⟨root, -, -, -, halike⟩ := mirrors_of_ofDocument hread
  exact ⟨hread, hkeys, halike hkeys⟩

end Layout

end TmuxLayout
