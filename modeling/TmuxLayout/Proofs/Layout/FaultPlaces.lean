import TmuxLayout.Proofs.Compile.Mismatches
import TmuxLayout.Proofs.Layout.Mirroring
import TmuxLayout.Proofs.Layout.Violations
import TmuxLayout.Proofs.Text.Numeral
import TmuxLayout.Proofs.Text.Splitting

/-!
# The path in a fault (SPEC_FULL.md §4.2)

A fault names the node it is about by a path, a text that grows on the way down. The
text can be taken apart again, so it stands for one place only. Whoever follows the
place through the document comes to a value, and that value is what the fault says.

- `placePath_injective`: places with the same path are the same.
- `Document.IsCalled`: the words for the kinds of values.
- `Document.Exhibits`: a value is what a fault says of it, with one case for each kind of
  fault.
- `exhibits_of_mem_nodeViolations`: what is found wrong with a node can be seen of it.
- `exists_of_mem_walk`: the walk through a document and its paths go together.
- `Layout.ofDocument_fault_place`: all of it for the fault that reading ends in.
-/

namespace TmuxLayout

open Document (lookup?)

/-! ## Paths -/

/-- What a path has before the number of a child. -/
def panesText : List Char := ".panes[".toList

/-- What the number of a child adds to a path. -/
def childText (number : Nat) : List Char :=
  panesText ++ ((toString number).toList ++ [']'])

theorem toList_placePath (parent : String) (place : Place) :
    (placePath parent place).toList = parent.toList ++ place.flatMap childText := by
  induction place generalizing parent with
  | nil => exact (List.append_nil _).symm
  | cons number place ih =>
    have hchild : (childPath parent number).toList = parent.toList ++ childText number := by
      rw [childPath, String.toList_append, String.toList_append, String.toList_append,
        List.append_assoc, List.append_assoc]
      rfl
    rw [placePath_cons, ih, hchild, List.flatMap_cons, List.append_assoc]

/-- The digits of a child number end at the bracket behind them. -/
theorem childText_append_inj {number other : Nat} {rest more : List Char}
    (h : childText number ++ rest = childText other ++ more) : number = other ∧ rest = more := by
  have hbracket (n : Nat) : ']' ∉ (toString n).toList := fun hmem =>
    absurd (Text.isDigit_of_mem_toString hmem) (by decide)
  rw [childText, childText, List.append_assoc, List.append_assoc, List.append_assoc,
    List.append_assoc] at h
  obtain ⟨hnumber, hrest⟩ := Text.append_cons_inj (hbracket number) (hbracket other)
    (List.append_cancel_left h)
  exact ⟨Text.toString_inj.mp (String.toList_inj.mp hnumber), hrest⟩

/-- Places with the same path are the same. -/
theorem placePath_injective (parent : String) : Function.Injective (placePath parent) := by
  intro place other h
  have htexts := congrArg String.toList h
  rw [toList_placePath, toList_placePath] at htexts
  replace htexts := List.append_cancel_left htexts
  clear h
  -- without their common beginning the texts are compared number by number
  induction place generalizing other with
  | nil =>
    cases other with
    | nil => rfl
    | cons number other => cases htexts
  | cons number place ih =>
    cases other with
    | nil => cases htexts
    | cons number' other =>
      rw [List.flatMap_cons, List.flatMap_cons] at htexts
      obtain ⟨rfl, hrest⟩ := childText_append_inj htexts
      rw [ih hrest]

/-! ## What a fault says -/

/-- The path in a fault, if it is about one node. -/
def Layout.Fault.path? : Layout.Fault → Option String
  | .invalidContainerType path _ | .missingPanes path | .ratioLengthMismatch path _ _
  | .invalidField path _ _ => some path
  | .missingLayout | .multipleFocus _ => none

namespace Document

/-- What a fault calls a value that it does not quote. -/
inductive IsCalled : Document → String → Prop where
  | null : IsCalled .null "null"
  | bool (value : Bool) : IsCalled (.bool value) "a boolean"
  | int (value : Int) : IsCalled (.int value) "a number"
  | float (value : Float) : IsCalled (.float value) "a number"
  | string (text : String) : IsCalled (.string text) "a string"
  | sequence (items : List Document) : IsCalled (.sequence items) "an array"
  | mapping (entries : Entries) : IsCalled (.mapping entries) "a mapping"
  | tagged (tag : String) (value : Document) : IsCalled (.tagged tag value) "a tagged value"

/-- Faults call a value by its kind. -/
theorem isCalled_kind (value : Document) : value.IsCalled value.kind := by
  cases value <;> constructor

/-- A value is what a fault with a path says of it. -/
inductive Exhibits (value : Document) (path : String) : Layout.Fault → Prop where
  | noType : value.get? "type" = none →
      Exhibits value path (.invalidContainerType path "no type")
  | word (word : String) : value.get? "type" = some (.string word) →
      word ≠ "horizontal" → word ≠ "vertical" →
      Exhibits value path (.invalidContainerType path ("'" ++ word ++ "'"))
  /-- A type that is no text, or one with a tag. -/
  | type (type : Document) (kind : String) : value.get? "type" = some type →
      (∀ word, type ≠ .string word) →
      (∀ word, type.asString? = some word → word ≠ "horizontal" ∧ word ≠ "vertical") →
      type.IsCalled kind → Exhibits value path (.invalidContainerType path kind)
  | panes : (∀ panes, value.get? "panes" = some panes → panes.asSequence? = none) →
      Exhibits value path (.missingPanes path)
  | ratioLength (weights items : List Document) (panes : Document) :
      value.get? "ratio" = some (.sequence weights) → value.get? "panes" = some panes →
      panes.asSequence? = some items → weights.length ≠ items.length →
      Exhibits value path (.ratioLengthMismatch path weights.length items.length)
  | ratio (other : Document) (kind : String) : value.get? "ratio" = some other →
      other ≠ .null → (∀ weights, other ≠ .sequence weights) → other.IsCalled kind →
      Exhibits value path
        (.invalidField path "ratio" ("expected an array of numbers, found " ++ kind))
  | weight (weights : List Document) (weight : Document) (kind : String) :
      value.get? "ratio" = some (.sequence weights) → weight ∈ weights →
      weight.asNumber? = none → weight.IsCalled kind →
      Exhibits value path (.invalidField path "ratio" ("expected a number, found " ++ kind))
  | text (field : String) (other : Document) (kind : String) :
      field = "name" ∨ field = "command" → value.get? field = some other →
      other ≠ .null → (∀ text, other ≠ .string text) → other.IsCalled kind →
      Exhibits value path (.invalidField path field ("expected a string, found " ++ kind))
  | node (kind : String) : value.asMapping? = none → value.IsCalled kind →
      Exhibits value path (.invalidField path "panes"
        ("expected a pane or container mapping, found " ++ kind))

variable {value : Document} {path : String} {fault : Layout.Fault}

theorem Exhibits.path?_eq (h : value.Exhibits path fault) : fault.path? = some path := by
  cases h <;> rfl

/-- The value at a key of a mapping is looked up among its entries. -/
theorem get?_eq (value : Document) (key : String) :
    value.get? key = lookup? key (value.asMapping?.getD []) := by
  rw [get?]
  cases value.asMapping? with
  | none => rfl
  | some entries => rfl

end Document

/-! ## Nodes -/

theorem path?_of_mem_textViolations {path field : String} {entries : Entries}
    {fault : Layout.Fault} (h : fault ∈ textViolations path field entries) :
    fault.path? = some path := by
  rw [textViolations] at h
  split at h
  · cases h
  · cases h
  · cases h
  · cases List.mem_singleton.mp h
    rfl

section

variable {value : Document} {path : String} {entries : Entries} {fault : Layout.Fault}
  (hget : ∀ key, value.get? key = lookup? key entries)

include hget

theorem exhibits_of_mem_textViolations {field : String}
    (hfield : field = "name" ∨ field = "command")
    (h : fault ∈ textViolations path field entries) : value.Exhibits path fault := by
  rw [textViolations, ← hget] at h
  split at h
  · cases h
  · cases h
  · cases h
  · next other hnull htext hother =>
    cases List.mem_singleton.mp h
    exact .text field other _ hfield hother hnull htext other.isCalled_kind

theorem exhibits_of_mem_typeViolations (h : fault ∈ typeViolations path entries) :
    value.Exhibits path fault := by
  rw [typeViolations, ← hget] at h
  split at h
  · cases h
  · next hwords =>
    cases List.mem_singleton.mp h
    rw [not_or] at hwords
    cases htype : value.get? "type" with
    | none => exact .noType htype
    | some type =>
      rw [htype, Option.bind_some] at hwords
      have hother (word : String) (hword : type.asString? = some word) :
          word ≠ "horizontal" ∧ word ≠ "vertical" :=
        ⟨fun heq => hwords.1 (heq ▸ hword), fun heq => hwords.2 (heq ▸ hword)⟩
      cases type with
      | string word => exact .word word htype (hother word rfl).1 (hother word rfl).2
      | _ => exact .type _ _ htype (fun _ heq => by cases heq) hother (Document.isCalled_kind _)

theorem exhibits_of_mem_panesViolations (h : fault ∈ panesViolations path entries) :
    value.Exhibits path fault := by
  rw [panesViolations, panesIn?, ← hget] at h
  split at h
  · cases h
  · next hnone =>
    cases List.mem_singleton.mp h
    refine .panes fun panes hpanes => ?_
    rw [hpanes, Option.bind_some] at hnone
    exact Option.not_isSome_iff_eq_none.mp hnone

theorem exhibits_of_mem_ratioViolations (h : fault ∈ ratioViolations path entries) :
    value.Exhibits path fault := by
  rw [ratioViolations, ← hget] at h
  split at h
  · cases h
  · cases h
  · next weights hweights =>
    -- the length is one rule, and each of the weights another
    cases List.mem_append.mp h with
    | inl hlength =>
      rw [panesIn?, ← hget] at hlength
      split at hlength
      · next items hitems =>
        obtain ⟨panes, hpanes, hitems⟩ := Option.bind_eq_some_iff.mp hitems
        split at hlength
        · cases hlength
        · next hne =>
          cases List.mem_singleton.mp hlength
          exact .ratioLength weights items panes hweights hpanes hitems hne
      · cases hlength
    | inr hweight =>
      obtain ⟨weight, hmem, rfl⟩ := List.mem_map.mp hweight
      obtain ⟨hmem, hnone⟩ := List.mem_filter.mp hmem
      exact .weight weights weight _ hweights hmem (Option.isNone_iff_eq_none.mp hnone)
        weight.isCalled_kind
  · next other hnull hsequence hother =>
    cases List.mem_singleton.mp h
    exact .ratio other _ hother hnull hsequence other.isCalled_kind

theorem exhibits_of_mem_containerViolations (h : fault ∈ containerViolations path entries) :
    value.Exhibits path fault := by
  rcases List.mem_append.mp h with htype | hrest
  · exact exhibits_of_mem_typeViolations hget htype
  · rcases List.mem_append.mp hrest with hpanes | hratio
    · exact exhibits_of_mem_panesViolations hget hpanes
    · exact exhibits_of_mem_ratioViolations hget hratio

end

theorem exhibits_of_mem_nodeViolations {value : Document} {path : String} {fault : Layout.Fault}
    (h : fault ∈ nodeViolations path value) : value.Exhibits path fault := by
  have hget := value.get?_eq
  rw [nodeViolations] at h
  split at h
  · next hnone =>
    cases List.mem_singleton.mp h
    exact .node _ hnone value.isCalled_kind
  · next entries hentries =>
    rw [hentries, Option.getD_some] at hget
    split at h
    · exact exhibits_of_mem_containerViolations hget h
    · rcases List.mem_append.mp h with hname | hcommand
      · exact exhibits_of_mem_textViolations hget (.inl rfl) hname
      · exact exhibits_of_mem_textViolations hget (.inr rfl) hcommand

/-! ## The walk -/

namespace Document

/-- The walk through a row goes to places in the row when that holds of each of its
nodes. -/
theorem exists_of_mem_walkRow {documents : List Document}
    (h : ∀ document ∈ documents, ∀ path found value, (found, value) ∈ walk path document →
      ∃ place, found = placePath path place ∧ document.at? place = some value)
    {path found : String} {position : Nat} {value : Document}
    (hmem : (found, value) ∈ walkRow path position documents) :
    ∃ number place, found = placePath path ((position + number) :: place) ∧
      documents[number]?.bind (·.at? place) = some value := by
  induction documents generalizing position with
  | nil =>
    rw [walkRow] at hmem
    cases hmem
  | cons document documents ih =>
    rw [walkRow] at hmem
    rcases List.mem_append.mp hmem with hfirst | hrest
    · obtain ⟨place, hfound, hat⟩ := h document List.mem_cons_self _ _ _ hfirst
      exact ⟨0, place, hfound, hat⟩
    · obtain ⟨number, place, hfound, hat⟩ :=
        ih (fun other hother => h other (List.mem_cons_of_mem _ hother)) hrest
      refine ⟨number + 1, place, ?_, hat⟩
      rw [hfound, Nat.add_right_comm, Nat.add_assoc]

/-- The walk goes to the places of a document, with the paths of these places. -/
theorem exists_of_mem_walk {document : Document} {path found : String} {value : Document}
    (h : (found, value) ∈ walk path document) :
    ∃ place, found = placePath path place ∧ document.at? place = some value := by
  induction document using childInduction generalizing path found value with
  | step document ih =>
    rw [walk] at h
    cases h with
    | head => exact ⟨[], rfl, rfl⟩
    | tail _ hrow =>
      have hinner : ∀ child ∈ document.inner, child ∈ document.children := by
        intro child hchild
        rw [inner] at hchild
        split at hchild
        · exact hchild
        · cases hchild
      obtain ⟨number, place, hfound, hat⟩ :=
        exists_of_mem_walkRow (fun child hchild _ _ _ => ih child (hinner child hchild)) hrow
      rw [Nat.zero_add] at hfound
      exact ⟨number :: place, hfound, hat⟩

end Document

/-! ## Layouts -/

/-- Entries that break no rule on types are those of a container. -/
theorem isContainer_of_typeViolations {path : String} {entries : Entries}
    (h : typeViolations path entries = []) : isContainer entries = true := by
  rw [typeViolations] at h
  split at h
  · next hword =>
    rw [isContainer]
    cases htype : lookup? "type" entries with
    | none => simp [htype] at hword
    | some type => rfl
  · cases h

namespace Layout

/-- The first violation of a root and the nodes below it can be seen at a place. -/
theorem exists_of_head?_violations {root : Document} {fault : Fault}
    (h : (containerViolations rootPath (root.asMapping?.getD []) ++
      violationsOf (Document.walkRow rootPath 0 root.children)).head? = some fault) :
    ∃ place value, root.at? place = some value ∧
      value.Exhibits (placePath rootPath place) fault := by
  cases hroot : containerViolations rootPath (root.asMapping?.getD []) with
  | cons first others =>
    have hmem : fault ∈ containerViolations rootPath (root.asMapping?.getD []) := by
      rw [hroot] at h ⊢
      cases h
      exact List.mem_cons_self
    exact ⟨[], root, rfl, exhibits_of_mem_containerViolations root.get?_eq hmem⟩
  | nil =>
    -- a root that breaks no rule is a container, so the nodes below it are its children
    have hcontainer := isContainer_of_typeViolations (List.append_eq_nil_iff.mp hroot).1
    obtain ⟨entries, hentries⟩ : ∃ entries, root.asMapping? = some entries := by
      cases hentries : root.asMapping? with
      | none =>
        rw [hentries] at hcontainer
        cases hcontainer
      | some entries => exact ⟨entries, rfl⟩
    rw [hentries, Option.getD_some] at hcontainer
    rw [hroot, List.nil_append] at h
    obtain ⟨⟨path, value⟩, hmem, hfault⟩ := List.mem_flatMap.mp (List.mem_of_mem_head? h)
    obtain ⟨number, place, rfl, hat⟩ := Document.exists_of_mem_walkRow
      (fun _ _ _ _ _ hwalk => Document.exists_of_mem_walk hwalk) hmem
    rw [Nat.zero_add] at hfault
    refine ⟨number :: place, value, ?_, exhibits_of_mem_nodeViolations hfault⟩
    rw [Document.at?, Document.inner_container hentries hcontainer]
    exact hat

/-- A fault with a path other than that of the document is the first violation of the root
and the nodes below it. -/
theorem head?_violations_of_ofDocument {document : Document} {fault : Fault} {path : String}
    (h : ofDocument document = .error fault) (hpath : fault.path? = some path)
    (hbelow : path ≠ "document") :
    ∃ root, document.get? "layout" = some root ∧
      (containerViolations rootPath (root.asMapping?.getD []) ++
        violationsOf (Document.walkRow rootPath 0 root.children)).head? = some fault := by
  -- a fault of the rule on focus has no path, so this one is from reading the tree
  have hviolations : document.violations.head? = some fault := by
    rw [ofDocument_eq] at h
    cases htree : ofTree document with
    | error other =>
      rw [htree] at h
      cases h
      exact (reports_ofTree document).error_iff.mp htree
    | ok layout =>
      rw [htree] at h
      change (checkFocus layout.root).map _ = _ at h
      cases hfocus : checkFocus layout.root with
      | error other =>
        rw [hfocus] at h
        cases h
        obtain ⟨-, rfl⟩ := (checkFocus_eq_error_iff _).mp hfocus
        cases hpath
      | ok _ =>
        rw [hfocus] at h
        cases h
  rw [Document.violations] at hviolations
  cases hroot : layoutValue? document with
  | none =>
    rw [hroot] at hviolations
    cases hviolations
    cases hpath
  | some root =>
    refine ⟨root, (Option.filter_eq_some_iff.mp hroot).1, ?_⟩
    rw [hroot, List.head?_append] at hviolations
    -- a fault of the name would have the path of the document
    cases hnames : textViolations "document" "name" (document.asMapping?.getD []) with
    | nil =>
      rw [hnames] at hviolations
      exact hviolations
    | cons first others =>
      rw [hnames] at hviolations
      cases hviolations
      have hmem : fault ∈ textViolations "document" "name" (document.asMapping?.getD []) :=
        hnames ▸ List.mem_cons_self
      have hdocument : fault.path? = some "document" := path?_of_mem_textViolations hmem
      exact absurd (Option.some_inj.mp (hpath.symm.trans hdocument)) hbelow

/-- **A path leads to what is wrong.** When reading fails with a fault about one node, so
that its path is not that of the document, the path is that of one place and of no other.
From the value of the layout the place leads through containers to a value that is there,
and that value is what the fault says. -/
theorem ofDocument_fault_place {document : Document} {fault : Fault} {path : String}
    (h : ofDocument document = .error fault) (hpath : fault.path? = some path)
    (hbelow : path ≠ "document") :
    Function.Injective (placePath "layout") ∧
    ∃ place, (∀ other, placePath "layout" other = path ↔ other = place) ∧
      ∃ root value, document.get? "layout" = some root ∧ root.at? place = some value ∧
        value.Exhibits path fault := by
  obtain ⟨root, hroot, hhead⟩ := head?_violations_of_ofDocument h hpath hbelow
  obtain ⟨place, value, hat, hexhibits⟩ := exists_of_head?_violations hhead
  obtain rfl : placePath rootPath place = path :=
    Option.some_inj.mp (hexhibits.path?_eq.symm.trans hpath)
  have hinjective := placePath_injective "layout"
  exact ⟨hinjective, place, fun other => hinjective.eq_iff, root, value, hroot, hat, hexhibits⟩

/-- A command that is a number, of the second pane in the second container. -/
theorem ofDocument_fault_place_nested :
    let inner : Document := .mapping [(.string "type", .string "vertical"),
      (.string "panes", .sequence [.mapping [], .mapping [(.string "command", .int 1)]])]
    let document : Document := .mapping [(.string "layout", .mapping
      [(.string "type", .string "horizontal"),
        (.string "panes", .sequence [.mapping [], inner])])]
    let path := "layout.panes[1].panes[1]"
    let fault : Fault := .invalidField path "command" "expected a string, found a number"
    ofDocument document = .error fault ∧ fault.path? = some path ∧ path ≠ "document" ∧
      ∃ place, (∀ other, placePath "layout" other = path ↔ other = place) ∧
        ∃ root value, document.get? "layout" = some root ∧ root.at? place = some value ∧
          value.Exhibits path fault := by
  intro inner document path fault
  have hfault : ofDocument document = .error fault := rfl
  have hbelow : path ≠ "document" := by decide
  exact ⟨hfault, rfl, hbelow, (ofDocument_fault_place hfault rfl hbelow).2⟩

end Layout

end TmuxLayout
