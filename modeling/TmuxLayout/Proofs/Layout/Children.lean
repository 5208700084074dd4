import TmuxLayout.Layout.Reader

/-!
# Reading a document node by node

Nodes are read by recursion on all that a document is made of: entries, tags and
items. What matters of a document are its children, the items of the first entry
for them, seen through tags. Here reading is put in terms of them.

- `Document.children`: the documents of the children of a node.
- `Document.childInduction`: what holds of a document when it holds of its
  children holds of every document.
- `childrenIn_eq`, `nodeOf_eq`: reading a row of children, and a node.
-/

namespace TmuxLayout

namespace Document

/-! ## Entries -/

theorem lookup?_cons_self (key : String) (value : Document) (entries : Entries) :
    lookup? key ((string key, value) :: entries) = some value := by
  rw [lookup?, if_pos rfl]

theorem lookup?_cons_of_ne {key : String} {other : Document} (h : other ≠ string key)
    (value : Document) (entries : Entries) :
    lookup? key ((other, value) :: entries) = lookup? key entries := by
  cases other with
  | string text => rw [lookup?, if_neg fun heq => h (congrArg string heq)]
  | _ => rfl

theorem lookup?_eq_none {key : String} {entries : Entries}
    (h : string key ∉ entries.map Prod.fst) : lookup? key entries = none := by
  induction entries with
  | nil => rfl
  | cons entry entries ih =>
    rw [List.map_cons, List.mem_cons, not_or] at h
    rw [lookup?_cons_of_ne (Ne.symm h.1), ih h.2]

/-- Where no key comes twice, the order of entries does not matter. -/
theorem lookup?_perm {entries others : Entries} (h : entries.Perm others)
    (hnodup : (entries.map Prod.fst).Nodup) (key : String) :
    lookup? key entries = lookup? key others := by
  induction h with
  | nil => rfl
  | cons entry _ ih =>
    obtain ⟨first, value⟩ := entry
    by_cases hkey : first = string key
    · rw [hkey, lookup?_cons_self, lookup?_cons_self]
    · rw [lookup?_cons_of_ne hkey, lookup?_cons_of_ne hkey,
        ih (List.nodup_cons.mp hnodup).2]
  | swap second first entries =>
    obtain ⟨first, value⟩ := first
    obtain ⟨second, behind⟩ := second
    -- only one of the two entries can have the key
    have hne : second ≠ first := fun heq => by simp [heq] at hnodup
    by_cases hkey : second = string key
    · have hfirst : first ≠ string key := fun heq => hne (hkey.trans heq.symm)
      rw [hkey, lookup?_cons_self, lookup?_cons_of_ne hfirst, lookup?_cons_self]
    · rw [lookup?_cons_of_ne hkey]
      by_cases hfirst : first = string key
      · rw [hfirst, lookup?_cons_self, lookup?_cons_self]
      · rw [lookup?_cons_of_ne hfirst, lookup?_cons_of_ne hfirst, lookup?_cons_of_ne hkey]
  | trans hfirst _ ihfirst ihsecond =>
    rw [ihfirst hnodup, ihsecond ((hfirst.map Prod.fst).nodup_iff.mp hnodup)]

/-! ## Sizes -/

/-- There is no more inside tags than with them. -/
theorem size_untagged_le (document : Document) : document.untagged.size ≤ document.size := by
  fun_induction untagged document with
  | case1 tag value ih =>
    rw [size]
    exact Nat.le_succ_of_le ih
  | case2 => exact Nat.le_refl _

/-- A value is no larger than the entries that it is found among. -/
theorem size_lt_of_lookup? {key : String} {entries : List (Document × Document)}
    {value : Document} (h : lookup? key entries = some value) :
    value.size ≤ entriesSize entries := by
  fun_induction lookup? key entries with
  | case1 => cases h
  | case2 value' entries =>
    cases h
    rw [entriesSize]
    omega
  | case3 text value' entries _ ih =>
    have hle := ih h
    rw [entriesSize]
    omega
  | case4 entry entries _ ih =>
    have hle := ih h
    obtain ⟨key', value'⟩ := entry
    rw [entriesSize]
    omega

theorem size_le_itemsSize {items : List Document} {item : Document} (h : item ∈ items) :
    item.size ≤ itemsSize items := by
  induction items with
  | nil => cases h
  | cons other items ih =>
    rw [itemsSize]
    cases List.mem_cons.mp h with
    | inl heq =>
      rw [heq]
      omega
    | inr hmem =>
      have hle := ih hmem
      omega

theorem untagged_eq_of_asMapping? {document : Document} {entries : Entries}
    (h : document.asMapping? = some entries) : document.untagged = .mapping entries := by
  rw [asMapping?] at h
  split at h
  · cases h
    assumption
  · cases h

theorem untagged_eq_of_asSequence? {document : Document} {items : List Document}
    (h : document.asSequence? = some items) : document.untagged = .sequence items := by
  rw [asSequence?] at h
  split at h
  · cases h
    assumption
  · cases h

/-! ## Children -/

/-- The documents of the children of a node. -/
def children (document : Document) : List Document :=
  (document.asMapping?.bind panesIn?).getD []

theorem size_pos (document : Document) : 0 < document.size := by
  cases document <;> simp [size]

/-- The children of a document are smaller than it, all of them together. -/
theorem itemsSize_children_lt (document : Document) :
    itemsSize document.children < document.size := by
  rw [children]
  cases hentries : document.asMapping? with
  | none => exact size_pos document
  | some entries =>
    cases hitems : panesIn? entries with
    | none =>
      rw [Option.bind_some, hitems]
      exact size_pos document
    | some items =>
      rw [Option.bind_some, hitems, Option.getD_some]
      -- from the document to its entries, the entry and its items
      obtain ⟨value, hlookup, hvalue⟩ := Option.bind_eq_some_iff.mp hitems
      have hdocument := size_untagged_le document
      rw [untagged_eq_of_asMapping? hentries, size] at hdocument
      have hsequence := size_untagged_le value
      rw [untagged_eq_of_asSequence? hvalue, size] at hsequence
      have hentry := size_lt_of_lookup? hlookup
      omega

/-- Children are smaller than their container, so that an induction can go down to them. -/
theorem size_lt_of_mem_children {document child : Document} (h : child ∈ document.children) :
    child.size < document.size :=
  Nat.lt_of_le_of_lt (size_le_itemsSize h) (itemsSize_children_lt document)

/-- What holds of a document when it holds of its children holds of all
documents. -/
theorem childInduction {P : Document → Prop}
    (step : ∀ document : Document, (∀ child ∈ document.children, P child) → P document)
    (document : Document) : P document := by
  induction hsize : document.size using Nat.strongRecOn generalizing document with
  | ind n ih =>
    refine step document fun child hchild => ?_
    have hlt := size_lt_of_mem_children hchild
    exact ih child.size (hsize ▸ hlt) child rfl

end Document

/-! ## Reading -/

/-- The nodes of a sequence are those of its items, seen through tags. -/
theorem childrenOf_eq (document : Document) (path : String) :
    childrenOf document path =
      match document.asSequence? with
      | none => .error (.missingPanes path)
      | some items => nodesOf items path 0 := by
  fun_induction Document.untagged document with
  | case1 tag value ih => exact ih
  | case2 value hvalue =>
    cases value with
    | tagged tag value => exact absurd rfl (hvalue tag value)
    | _ => rfl

/-- The nodes of a row of children come from the documents of the children. -/
theorem childrenIn_eq (entries : Entries) (path : String) :
    childrenIn entries path =
      match panesIn? entries with
      | none => .error (.missingPanes path)
      | some items => nodesOf items path 0 := by
  induction entries with
  | nil => rfl
  | cons entry entries ih =>
    obtain ⟨key, value⟩ := entry
    -- only the first entry for the children counts, in both ways of reading
    by_cases hkey : key = .string "panes"
    · rw [hkey, panesIn?, Document.lookup?_cons_self]
      exact childrenOf_eq value path
    · rw [childrenIn, ih, panesIn?, panesIn?, Document.lookup?_cons_of_ne hkey]
      exact hkey

/-- A node is a container with its frame and its children, or a pane, if it is a
mapping at all. -/
theorem nodeOf_eq (document : Document) (path : String) :
    nodeOf document path =
      match document.asMapping? with
      | none => .error (wrongKind path "panes" "a pane or container mapping" document)
      | some entries =>
        if isContainer entries then do
          let frame ← readFrame entries path
          let children ← childrenIn entries path
          return .container frame children
        else (readPane entries path).map Node.pane := by
  -- the recursion goes through tags first, and so does the view of a mapping
  fun_induction Document.untagged document with
  | case1 tag value ih =>
    have hview : (Document.tagged tag value).asMapping? = value.asMapping? := rfl
    rw [nodeOf, ih, hview]
    cases value.asMapping? with
    | none => rfl
    | some entries => rfl
  | case2 value hvalue =>
    cases value with
    | tagged tag value => exact absurd rfl (hvalue tag value)
    | mapping entries =>
      rw [nodeOf]
      rfl
    | _ => rfl

end TmuxLayout
