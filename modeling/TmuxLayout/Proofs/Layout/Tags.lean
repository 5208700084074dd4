import Mathlib.Logic.Relation
import TmuxLayout.Proofs.Layout.Violations

/-!
# Tags that reading sees through

Reading looks through the tags on some values and stops at those on others: a mapping, a
type, a row of children and a weight may have tags, whereas a ratio, a name, a command and
focus may not. So tags can be put around any of the former, anywhere in a document and any
number of them, and the layout stays what it was. The words of a fault may change, as they
tell of tags.

Tags are taken away in one walk here. A document without them is read as the document is,
and it is the same document before and after a tag was added.

- `Document.Part`: what a value stands for, and whether it is seen through tags.
- `Document.TagAdded`, `Document.Tagged`: a tag, and any number of tags, added where reading
  sees through them.
- `Document.bare`: a document without these tags.
- `nodeOf_bare`, `Layout.ofDocument_bare`: it is read the same, faults apart.
- `Document.bare_eq_of_tagAdded`: it stays the same when a tag is added.
- `Layout.ofDocument_tagged`: tags change no layout.
-/

namespace TmuxLayout

open Document (lookup?)

/-! ## Tags -/

namespace Document

/-- What a value stands for in a document. -/
inductive Part where
  /-- The whole document. -/
  | document
  /-- A pane or a container, the layout itself among them. -/
  | node
  /-- The type of a container. -/
  | type
  /-- The children of a container. -/
  | row
  /-- The ratio of a container. -/
  | ratio
  /-- One of the numbers of a ratio. -/
  | weight
  /-- Any other value. -/
  | other

namespace Part

/-- What the value of an entry stands for. -/
def ofEntry : Part → Document → Part
  | document, .string "layout" => node
  | node, .string "type" => type
  | node, .string "panes" => row
  | node, .string "ratio" => ratio
  | _, _ => other

/-- What the items of a sequence stand for. -/
def ofItem : Part → Part
  | row => node
  | ratio => weight
  | _ => other

/-- Whether reading sees a value through tags. -/
def isSeenThrough : Part → Bool
  | document | node | type | row | weight => true
  | ratio | other => false

end Part

/-- A tag is added somewhere in a value, around one that is seen through tags. Others may be
there already, outside and inside of it. -/
inductive TagAdded : Part → Document → Document → Prop
  | around {part : Part} (tag : String) (value : Document) :
    part.isSeenThrough = true → TagAdded part value (.tagged tag value)
  | within {part : Part} {value other : Document} (tag : String) :
    part.isSeenThrough = true → TagAdded part value other →
    TagAdded part (.tagged tag value) (.tagged tag other)
  | entry {part : Part} {key value other : Document} (before after : Entries) :
    TagAdded (part.ofEntry key) value other →
    TagAdded part (.mapping (before ++ (key, value) :: after))
      (.mapping (before ++ (key, other) :: after))
  | item {part : Part} {value other : Document} (before after : List Document) :
    TagAdded part.ofItem value other →
    TagAdded part (.sequence (before ++ value :: after)) (.sequence (before ++ other :: after))

/-- Any number of tags is added to a document. -/
def Tagged (document other : Document) : Prop :=
  Relation.ReflTransGen (TagAdded .document) document other

/-! ## Documents without tags -/

mutual

/-- A value without the tags that reading sees through. -/
def bare (part : Part) : Document → Document
  | tagged tag value => if part.isSeenThrough then value.bare part else tagged tag value
  | sequence items => sequence (bareItems part items)
  | mapping entries => mapping (bareEntries part entries)
  | null => null
  | bool value => bool value
  | int value => int value
  | float value => float value
  | string text => string text

/-- The items of a sequence without their tags. -/
def bareItems (part : Part) : List Document → List Document
  | [] => []
  | item :: items => item.bare part.ofItem :: bareItems part items

/-- The entries of a mapping without the tags on their values. -/
def bareEntries (part : Part) : List (Document × Document) → List (Document × Document)
  | [] => []
  | (key, value) :: entries => (key, value.bare (part.ofEntry key)) :: bareEntries part entries

end

mutual

/-- Where no part is known, no tag is taken off. -/
theorem bare_other : ∀ document : Document, document.bare .other = document
  | tagged tag value => by rw [bare]; rfl
  | sequence items => by rw [bare, bareItems_other]
  | mapping entries => by rw [bare, bareEntries_other]
  | null | bool _ | int _ | float _ | string _ => by rw [bare]

theorem bareItems_other : ∀ items : List Document, bareItems .other items = items
  | [] => by rw [bareItems]
  | item :: items => by rw [bareItems, Part.ofItem, bare_other, bareItems_other]; all_goals nofun

theorem bareEntries_other : ∀ entries : Entries, bareEntries .other entries = entries
  | [] => by rw [bareEntries]
  | (key, value) :: entries => by
    rw [bareEntries, Part.ofEntry, bare_other, bareEntries_other]; all_goals nofun

end

theorem length_bareItems (part : Part) (items : List Document) :
    (bareItems part items).length = items.length := by
  induction items with
  | nil => rfl
  | cons item items ih => rw [bareItems, List.length_cons, List.length_cons, ih]

theorem bareItems_append (part : Part) (items others : List Document) :
    bareItems part (items ++ others) = bareItems part items ++ bareItems part others := by
  induction items with
  | nil => rfl
  | cons item items ih => rw [List.cons_append, bareItems, bareItems, ih, List.cons_append]

theorem bareEntries_append (part : Part) (entries others : Entries) :
    bareEntries part (entries ++ others) = bareEntries part entries ++ bareEntries part others := by
  induction entries with
  | nil => rfl
  | cons entry entries ih =>
    rw [List.cons_append, bareEntries, bareEntries, ih, List.cons_append]

/-- A tag that was added is taken away with the others. -/
theorem bare_eq_of_tagAdded {part : Part} {document other : Document}
    (h : TagAdded part document other) : other.bare part = document.bare part := by
  induction h with
  | around tag value hpart => rw [bare, if_pos hpart]
  | within tag hpart _ ih => rw [bare, bare, if_pos hpart, if_pos hpart, ih]
  | entry before after _ ih =>
    rw [bare, bare, bareEntries_append, bareEntries_append, bareEntries, bareEntries, ih]
  | item before after _ ih =>
    rw [bare, bare, bareItems_append, bareItems_append, bareItems, bareItems, ih]

/-- A document with more tags is the same document once tags are off. -/
theorem bare_eq_of_tagged {document other : Document} (h : document.Tagged other) :
    other.bare .document = document.bare .document := by
  induction h with
  | refl => rfl
  | tail _ hstep ih => rw [bare_eq_of_tagAdded hstep, ih]

/-! ## Views -/

theorem untagged_ne_tagged {document : Document} (tag : String) (value : Document) :
    document.untagged ≠ tagged tag value := by
  fun_induction untagged document with
  | case1 _ _ ih => exact ih
  | case2 document hdocument => exact hdocument tag value

section

variable {part : Part} (hpart : part.isSeenThrough = true) (document : Document)

include hpart

/-- Seeing through tags and taking them off come to the same. -/
theorem untagged_bare : (document.bare part).untagged = document.untagged.bare part := by
  fun_induction untagged document with
  | case1 tag value ih => rw [bare, if_pos hpart, ih]
  | case2 document hdocument =>
    cases document with
    | tagged tag value => exact absurd rfl (hdocument tag value)
    | _ => rfl

/-- A mapping is still seen, without the tags in it. -/
theorem asMapping?_bare :
    (document.bare part).asMapping? = document.asMapping?.map (bareEntries part) := by
  rw [asMapping?, asMapping?, untagged_bare hpart]
  cases hvalue : document.untagged with
  | tagged tag value => exact absurd hvalue (untagged_ne_tagged tag value)
  | _ => rfl

theorem asSequence?_bare :
    (document.bare part).asSequence? = document.asSequence?.map (bareItems part) := by
  rw [asSequence?, asSequence?, untagged_bare hpart]
  cases hvalue : document.untagged with
  | tagged tag value => exact absurd hvalue (untagged_ne_tagged tag value)
  | _ => rfl

theorem asString?_bare : (document.bare part).asString? = document.asString? := by
  rw [asString?, asString?, untagged_bare hpart]
  cases hvalue : document.untagged with
  | tagged tag value => exact absurd hvalue (untagged_ne_tagged tag value)
  | _ => rfl

theorem asNumber?_bare : (document.bare part).asNumber? = document.asNumber? := by
  rw [asNumber?, asNumber?, untagged_bare hpart]
  cases hvalue : document.untagged with
  | tagged tag value => exact absurd hvalue (untagged_ne_tagged tag value)
  | _ => rfl

end

/-- A mapping counts as given, through tags as well. -/
theorem isTruthy_of_asMapping? {document : Document} {entries : Entries}
    (h : document.asMapping? = some entries) : document.isTruthy = true := by
  cases document with
  | mapping _ | tagged _ _ => rfl
  | _ => cases h

/-- Keys are found as before, and their values have no tags. -/
theorem lookup?_bareEntries (part : Part) (key : String) (entries : Entries) :
    lookup? key (bareEntries part entries) =
      (lookup? key entries).map (bare (part.ofEntry (.string key))) := by
  induction entries with
  | nil => rfl
  | cons entry entries ih =>
    obtain ⟨other, value⟩ := entry
    rw [bareEntries]
    by_cases hkey : other = .string key
    · rw [hkey, lookup?_cons_self, lookup?_cons_self, Option.map_some]
    · rw [lookup?_cons_of_ne hkey, lookup?_cons_of_ne hkey, ih]

/-- Under keys that are no part of a node, values keep their tags. -/
theorem lookup?_bareEntries_of_other {part : Part} {key : String}
    (hpart : part.ofEntry (.string key) = .other) (entries : Entries) :
    lookup? key (bareEntries part entries) = lookup? key entries := by
  have hid : bare .other = id := funext bare_other
  rw [lookup?_bareEntries, hpart, hid, Option.map_id_apply]

end Document

open Document (Part bare bareEntries bareItems)

/-! ## Fields -/

section Fields

variable (entries : Entries) (path : String)

/-- A text that is no part is read as before: its tags stay on. -/
theorem readText_bareEntries {part : Part} {field : String}
    (hpart : part.ofEntry (.string field) = .other) :
    readText (bareEntries part entries) field path = readText entries field path := by
  rw [readText, readText, Document.lookup?_bareEntries_of_other hpart]

/-- Focus is read as before: its tags stay on. -/
theorem readFocus_bareEntries : readFocus (bareEntries .node entries) = readFocus entries := by
  rw [readFocus, readFocus, Document.lookup?_bareEntries_of_other rfl]

/-- A mapping has a type with tags in it or without them. -/
theorem isContainer_bareEntries :
    isContainer (bareEntries .node entries) = isContainer entries := by
  rw [isContainer, isContainer, Document.lookup?_bareEntries, Option.isSome_map]

/-- The direction is that of a text that is seen through tags. -/
theorem toOption_readDirection :
    (readDirection entries path).toOption =
      ((lookup? "type" entries).bind Document.asString?).bind Direction.ofName? := by
  rw [readDirection]
  cases ((lookup? "type" entries).bind Document.asString?).bind Direction.ofName? with
  | none => rfl
  | some direction => rfl

/-- The direction is read through tags. -/
theorem readDirection_bareEntries :
    (readDirection (bareEntries .node entries) path).toOption =
      (readDirection entries path).toOption := by
  rw [toOption_readDirection, toOption_readDirection, Document.lookup?_bareEntries]
  cases lookup? "type" entries with
  | none => rfl
  | some type =>
    rw [Option.map_some, Option.bind_some, Option.bind_some, Document.asString?_bare rfl]

theorem panesIn?_bareEntries :
    panesIn? (bareEntries .node entries) = (panesIn? entries).map (bareItems .row) := by
  rw [panesIn?, panesIn?, Document.lookup?_bareEntries]
  cases lookup? "panes" entries with
  | none => rfl
  | some panes => exact Document.asSequence?_bare rfl panes

/-- Weights are read through tags. -/
theorem readWeights_bareItems (items : List Document) :
    (readWeights path (bareItems .ratio items)).toOption = (readWeights path items).toOption := by
  induction items with
  | nil => rfl
  | cons item items ih =>
    rw [bareItems, readWeights, readWeights, Document.asNumber?_bare rfl]
    cases item.asNumber? with
    | none => rfl
    | some weight =>
      dsimp only
      rw [Except.toOption_map, Except.toOption_map, ih]

/-- A ratio with a tag stays one: it is at fault with its tag and without any other. -/
theorem readRatio_bareEntries (childCount : Nat) :
    (readRatio (bareEntries .node entries) childCount path).toOption =
      (readRatio entries childCount path).toOption := by
  have hpart : Part.node.ofEntry (.string "ratio") = .ratio := rfl
  rw [readRatio, readRatio, Document.lookup?_bareEntries, hpart]
  cases lookup? "ratio" entries with
  | none => rfl
  | some ratio =>
    cases ratio with
    | sequence items =>
      dsimp only [Option.map_some, bare]
      rw [Document.length_bareItems]
      split
      · rfl
      · rw [Except.toOption_map, Except.toOption_map, readWeights_bareItems]
    | _ => rfl

/-- What a container has besides its children is read through tags. -/
theorem readFrame_bareEntries :
    (readFrame (bareEntries .node entries) path).toOption = (readFrame entries path).toOption := by
  rw [readFrame, readFrame, Except.toOption_bind, Except.toOption_bind,
    readDirection_bareEntries, panesIn?_bareEntries, readFocus_bareEntries]
  refine congrArg _ (funext fun direction => ?_)
  cases panesIn? entries with
  | none => rfl
  | some items =>
    dsimp only [Option.map_some]
    rw [Except.toOption_bind, Except.toOption_bind, Document.length_bareItems,
      readRatio_bareEntries]

/-- A pane has no part that is seen through tags, so nothing changes. -/
theorem readPane_bareEntries :
    readPane (bareEntries .node entries) path = readPane entries path := by
  rw [readPane, readPane, readText_bareEntries _ _ rfl, readText_bareEntries _ _ rfl,
    readFocus_bareEntries]

end Fields

/-! ## Nodes -/

/-- A row is read the same where its items are. -/
theorem nodesOf_bareItems {items : List Document}
    (h : ∀ item ∈ items, ∀ path, (nodeOf (item.bare .node) path).toOption =
      (nodeOf item path).toOption) (path : String) (index : Nat) :
    (nodesOf (bareItems .row items) path index).toOption = (nodesOf items path index).toOption := by
  induction items generalizing index with
  | nil => rfl
  | cons item items ih =>
    obtain ⟨hitem, hitems⟩ := List.forall_mem_cons.mp h
    rw [bareItems, nodesOf, nodesOf, Except.toOption_bind, Except.toOption_bind, Part.ofItem, hitem]
    refine congrArg _ (funext fun node => ?_)
    rw [Except.toOption_bind, Except.toOption_bind, ih hitems]

/-- Children are read through tags where each of them is. -/
theorem childrenIn_bareEntries {entries : Entries}
    (h : ∀ items, panesIn? entries = some items → ∀ item ∈ items, ∀ path,
      (nodeOf (item.bare .node) path).toOption = (nodeOf item path).toOption) (path : String) :
    (childrenIn (bareEntries .node entries) path).toOption =
      (childrenIn entries path).toOption := by
  rw [childrenIn_eq, childrenIn_eq, panesIn?_bareEntries]
  cases hitems : panesIn? entries with
  | none => rfl
  | some items => exact nodesOf_bareItems (h items hitems) path 0

/-- A node without its tags is read as the node is, with all that is below it. -/
theorem nodeOf_bare (document : Document) (path : String) :
    (nodeOf (document.bare .node) path).toOption = (nodeOf document path).toOption := by
  induction document using Document.childInduction generalizing path with
  | step document ih =>
    rw [nodeOf_eq, nodeOf_eq, Document.asMapping?_bare rfl]
    cases hentries : document.asMapping? with
    | none => rfl
    | some entries =>
      dsimp only [Option.map_some]
      rw [isContainer_bareEntries]
      split
      · rw [Except.toOption_bind, Except.toOption_bind, readFrame_bareEntries]
        refine congrArg _ (funext fun frame => ?_)
        -- a fault may call its value a tagged one, so outcomes are compared without faults
        have hchildren : (childrenIn (bareEntries .node entries) path).toOption =
            (childrenIn entries path).toOption := by
          refine childrenIn_bareEntries (fun items hitems item hitem path => ?_) path
          have hchild : item ∈ document.children := by
            rw [Document.children_eq hentries hitems]
            exact hitem
          exact ih item hchild path
        rw [Except.toOption_bind, Except.toOption_bind, hchildren]
      · rw [readPane_bareEntries]

/-! ## Layouts -/

namespace Layout

/-- A layout is read from the mapping of its value: what has one counts as given. -/
theorem ofDocument_eq_ok_iff {document : Document} {layout : Layout} :
    ofDocument document = .ok layout ↔
      ∃ entries, (document.get? "layout").bind Document.asMapping? = some entries ∧
        readText (document.asMapping?.getD []) "name" "document" = .ok layout.name ∧
        readFrame entries rootPath = .ok layout.frame ∧
        childrenIn entries rootPath = .ok layout.children ∧
        checkFocus layout.root = .ok () := by
  constructor
  · intro h
    obtain ⟨value, hvalue, hname, hframe, hchildren, hfocus⟩ := ofDocument_eq_ok h
    have hget := (Option.filter_eq_some_iff.mp hvalue).1
    cases hentries : value.asMapping? with
    | none =>
      -- without entries there is no type
      rw [hentries] at hframe
      cases hframe
    | some entries =>
      rw [hentries] at hframe hchildren
      exact ⟨entries, Option.bind_eq_some_iff.mpr ⟨value, hget, hentries⟩, hname, hframe,
        hchildren, hfocus⟩
  · rintro ⟨entries, hlayout, hname, hframe, hchildren, hfocus⟩
    obtain ⟨value, hget, hentries⟩ := Option.bind_eq_some_iff.mp hlayout
    have hvalue : layoutValue? document = some value :=
      Option.filter_eq_some_iff.mpr ⟨hget, Document.isTruthy_of_asMapping? hentries⟩
    rw [ofDocument, hvalue]
    dsimp only
    rw [hname, hentries, Option.getD_some, hframe, hchildren]
    show (checkFocus layout.root >>= fun _ => pure layout) = .ok layout
    rw [hfocus]
    rfl

/-- The entries of the layout are found through tags around the document and the layout. -/
theorem layoutEntries_bare (document : Document) :
    ((document.bare .document).get? "layout").bind Document.asMapping? =
      ((document.get? "layout").bind Document.asMapping?).map (bareEntries .node) := by
  rw [Document.get?, Document.get?, Document.asMapping?_bare rfl]
  cases document.asMapping? with
  | none => rfl
  | some entries =>
    rw [Option.map_some, Option.bind_some, Option.bind_some, Document.lookup?_bareEntries]
    cases lookup? "layout" entries with
    | none => rfl
    | some value => exact Document.asMapping?_bare rfl value

theorem readName_bare (document : Document) :
    readText ((document.bare .document).asMapping?.getD []) "name" "document" =
      readText (document.asMapping?.getD []) "name" "document" := by
  rw [Document.asMapping?_bare rfl]
  cases document.asMapping? with
  | none => rfl
  | some entries => exact readText_bareEntries entries "document" rfl

/-- A document without its tags is the same layout, or none. -/
theorem ofDocument_bare (document : Document) (layout : Layout) :
    ofDocument (document.bare .document) = .ok layout ↔ ofDocument document = .ok layout := by
  have hframe (entries : Entries) :
      readFrame (bareEntries .node entries) rootPath = .ok layout.frame ↔
        readFrame entries rootPath = .ok layout.frame :=
    Except.eq_ok_iff_of_toOption (readFrame_bareEntries entries rootPath) _
  have hchildren (entries : Entries) :
      childrenIn (bareEntries .node entries) rootPath = .ok layout.children ↔
        childrenIn entries rootPath = .ok layout.children :=
    Except.eq_ok_iff_of_toOption
      (childrenIn_bareEntries (fun _ _ item _ path => nodeOf_bare item path) rootPath) _
  rw [ofDocument_eq_ok_iff, ofDocument_eq_ok_iff, layoutEntries_bare, readName_bare]
  constructor
  · rintro ⟨_, hlayout, hname, hroot, hrow, hfocus⟩
    obtain ⟨entries, hentries, rfl⟩ := Option.map_eq_some_iff.mp hlayout
    exact ⟨entries, hentries, hname, (hframe entries).mp hroot, (hchildren entries).mp hrow, hfocus⟩
  · rintro ⟨entries, hentries, hname, hroot, hrow, hfocus⟩
    exact ⟨bareEntries .node entries, Option.map_eq_some_iff.mpr ⟨entries, hentries, rfl⟩, hname,
      (hframe entries).mpr hroot, (hchildren entries).mpr hrow, hfocus⟩

/-- **Tags change no layout.** Any number of tags may be added around the document, the
layout and its nodes, around types, rows of children and the numbers of ratios, anywhere and
all at once: a document that is a layout stays the same layout, and one that is none does
not become one. -/
theorem ofDocument_tagged {document other : Document} (h : document.Tagged other)
    (layout : Layout) : ofDocument other = .ok layout ↔ ofDocument document = .ok layout := by
  rw [← ofDocument_bare other, Document.bare_eq_of_tagged h, ofDocument_bare]

/-- A document with a tag in its type, which is one already. -/
def markedDocument : Document :=
  .mapping [(.string "layout", .mapping [
    (.string "type", .tagged "!way" (.string "horizontal")),
    (.string "ratio", .sequence [.int 70, .int 30]),
    (.string "panes", .sequence [
      .mapping [(.string "name", .string "editor")],
      .mapping [(.string "type", .string "vertical"), (.string "panes", .sequence [])]])])]

/-- The same with tags wherever reading sees through them. -/
def overmarkedDocument : Document :=
  .tagged "!window" (.tagged "!draft" (.mapping [(.string "layout", .tagged "!root" (.mapping [
    (.string "type", .tagged "!way" (.tagged "!word" (.string "horizontal"))),
    (.string "ratio", .sequence [.tagged "!percent" (.int 70), .int 30]),
    (.string "panes", .tagged "!row" (.sequence [
      .tagged "!pane" (.mapping [(.string "name", .string "editor")]),
      .mapping [(.string "type", .tagged "!word" (.string "vertical")),
        (.string "panes", .sequence [])]]))]))]))

/-- The layout of both. -/
def markedLayout : Layout :=
  ⟨none, (Frame.plain .horizontal).withRatio [70.0, 30.0],
    [.pane (.named "editor"), .container (.plain .vertical) []]⟩

theorem ofDocument_tagged_everywhere :
    markedDocument.Tagged overmarkedDocument ∧
      ofDocument overmarkedDocument = .ok markedLayout := by
  have htagged : markedDocument.Tagged overmarkedDocument := by
    -- the types, a weight, a child and the row, then what is around them
    refine .head (.entry [] [] (.entry [] _ (.within _ rfl (.around "!word" _ rfl)))) ?_
    refine .head (.entry [] [] (.entry [_, _] []
      (.item [_] [] (.entry [] _ (.around "!word" _ rfl))))) ?_
    refine .head (.entry [] [] (.entry [_] _ (.item [] _ (.around "!percent" _ rfl)))) ?_
    refine .head (.entry [] [] (.entry [_, _] [] (.item [] _ (.around "!pane" _ rfl)))) ?_
    refine .head (.entry [] [] (.entry [_, _] [] (.around "!row" _ rfl))) ?_
    refine .head (.entry [] [] (.around "!root" _ rfl)) ?_
    refine .head (.around "!draft" _ rfl) ?_
    exact .single (.around "!window" _ rfl)
  have hweights : [Binary64.ofInt 70, Binary64.ofInt 30] = [70.0, 30.0] := by decide +kernel
  have hread : ofDocument markedDocument = .ok markedLayout := by
    rw [markedLayout, ← hweights]
    rfl
  exact ⟨htagged, (ofDocument_tagged htagged markedLayout).mpr hread⟩

-- reading does not see through a tag on a ratio
example : ofDocument (.mapping [(.string "layout", .mapping [
      (.string "type", .string "horizontal"), (.string "panes", .sequence []),
      (.string "ratio", .tagged "!empty" (.sequence []))])]) =
    .error (.invalidField "layout" "ratio"
      "expected an array of numbers, found a tagged value") := rfl

end Layout

end TmuxLayout
