import TmuxLayout.Yaml.Scanner

/-!
# From tokens to nodes

A node is a scalar, a sequence, a mapping or an alias. Anchors are numbered by
the count of different names seen before, so a name that is given a second time
shares its number with the next new name; the last node with a number is the one
that aliases of that number stand for.

- `Tag`: what a tag tells about its node.
- `Node`: the nodes of a text.
- `Node.anchored`: the nodes with an anchor, in the order of the text.
- `Node.eventCount`: the size of a node, brackets counted.
- `Node.ofTokens`: the node of a text that holds one document, if any.
-/

namespace TmuxLayout.Yaml

/-! ## Nodes -/

/-- What a tag tells about its node. -/
inductive Tag where
  /-- A local tag, written in full. -/
  | named (text : String)
  /-- A local tag that is not UTF-8. -/
  | unreadable
  | bool
  | int
  | float
  | null
  /-- Any other tag: a scalar is a string. -/
  | other
deriving Repr, DecidableEq

/-- The tag that begins with an exclamation mark and goes on with a name; a
second mark before a name does not count. -/
def Tag.ofLocalName (name : String) : Tag :=
  match name.toList with
  | [] => .named "!!"
  | '!' :: c :: rest => .named (String.ofList ('!' :: c :: rest))
  | name => .named (String.ofList ('!' :: name))

/-- The tag with these octets. -/
def Tag.ofOctets : Octets → Tag
  | 0x21 :: name =>
    match Octets.decode? name with
    | some name => Tag.ofLocalName name
    | none => .unreadable
  | octets =>
    match Octets.decode? octets with
    | some "tag:yaml.org,2002:bool" => .bool
    | some "tag:yaml.org,2002:int" => .int
    | some "tag:yaml.org,2002:float" => .float
    | some "tag:yaml.org,2002:null" => .null
    | _ => .other

/-- The anchor number and the tag of a node. -/
structure Properties where
  anchor : Option Nat
  tag : Option Tag
deriving Repr, DecidableEq

/-- A node of a text. -/
inductive Node where
  | scalar (properties : Properties) (style : Style) (text : String)
  | sequence (properties : Properties) (items : List Node)
  | mapping (properties : Properties) (entries : List (Node × Node))
  | aliasOf (anchor : Nat)
deriving Inhabited

namespace Node

/-- The node that stands where a text has none. -/
def empty : Node := scalar ⟨none, none⟩ .plain ""

/-- A node under its anchor number, if it has one. -/
def withAnchor (properties : Properties) (node : Node) : List (Nat × Node) :=
  match properties.anchor with
  | some anchor => [(anchor, node)]
  | none => []

mutual

/-- The nodes with an anchor, in the order of the text. -/
def anchored : Node → List (Nat × Node)
  | scalar properties style text => withAnchor properties (scalar properties style text)
  | sequence properties items =>
    withAnchor properties (sequence properties items) ++ itemsAnchored items
  | mapping properties entries =>
    withAnchor properties (mapping properties entries) ++ entriesAnchored entries
  | aliasOf _ => []

/-- The nodes with an anchor in a list of nodes. -/
def itemsAnchored : List Node → List (Nat × Node)
  | [] => []
  | item :: items => item.anchored ++ itemsAnchored items

/-- The nodes with an anchor in a list of entries. -/
def entriesAnchored : List (Node × Node) → List (Nat × Node)
  | [] => []
  | (key, value) :: entries => key.anchored ++ value.anchored ++ entriesAnchored entries

end

mutual

/-- The number of scalars and aliases in a node, and of the beginnings and ends
of its collections. -/
def eventCount : Node → Nat
  | scalar _ _ _ | aliasOf _ => 1
  | sequence _ items => itemsEventCount items + 2
  | mapping _ entries => entriesEventCount entries + 2

/-- The event count of a list of nodes. -/
def itemsEventCount : List Node → Nat
  | [] => 0
  | item :: items => item.eventCount + itemsEventCount items

/-- The event count of a list of entries. -/
def entriesEventCount : List (Node × Node) → Nat
  | [] => 0
  | (key, value) :: entries => key.eventCount + value.eventCount + entriesEventCount entries

end

end Node

/-! ## Grammar -/

/-- What the grammar keeps: the tokens to come, the names of the anchors with
their numbers, and the tag handles of the document. -/
structure Grammar where
  tokens : List Token
  anchors : List (String × Nat)
  handles : List (String × Octets)

/-- Steps of the grammar. -/
abbrev Parse := StateT Grammar (Except Error)

namespace Parse

/-- The kind of the next token; none at the end of the text. -/
def peek : Parse (Option TokenKind) := do
  return (← get).tokens.head?.map (·.kind)

/-- Moves over a token. -/
def skip : Parse Unit :=
  modify fun g => { g with tokens := g.tokens.tail }

/-- A fault at the next token. -/
def fail {α : Type} (cause : Cause) : Parse α := do
  let place := ((← get).tokens.head?.map (·.place)).getD ⟨0, 0, 0⟩
  throw ⟨cause, place⟩

/-- Moves over the next token if it is of this kind. -/
def accept (kind : TokenKind) : Parse Bool := do
  if (← peek) = some kind then
    skip
    return true
  else return false

/-- Gives a name to the node that begins. The number is that of the names so
far, whether the name is new or not. -/
def nameAnchor (name : String) : Parse Nat := do
  let g ← get
  let number := g.anchors.length
  set { g with anchors := (name, number) :: g.anchors.filter (·.1 ≠ name) }
  return number

/-- The full tag of a handle and a suffix. -/
def resolveTag (handle : String) (suffix : Octets) : Parse Tag := do
  if handle.isEmpty then return Tag.ofOctets suffix
  match (← get).handles.lookup handle with
  | some lead => return Tag.ofOctets (lead ++ suffix)
  | none => fail .unknownTagHandle

/-- Reads an anchor, if there is one. -/
def readAnchor : Parse (Option String) := do
  match ← peek with
  | some (.anchor name) =>
    skip
    return some name
  | _ => return none

/-- Reads a tag, if there is one. -/
def readTag : Parse (Option (String × Octets)) := do
  match ← peek with
  | some (.tag handle suffix) =>
    skip
    return some (handle, suffix)
  | _ => return none

/-- Reads the anchor and the tag of a node, in either order. -/
def readProperties : Parse Properties := do
  let first ← readAnchor
  let tag ← readTag
  let anchor ← match first with
    | some name => pure (some name)
    | none => if tag.isSome then readAnchor else pure none
  let tag ← tag.mapM fun (handle, suffix) => resolveTag handle suffix
  let anchor ← anchor.mapM nameAnchor
  return ⟨anchor, tag⟩

/-- Whether one of these tokens comes next. -/
def comesNext (kinds : List TokenKind) : Parse Bool := do
  match ← peek with
  | some kind => return kinds.contains kind
  | none => return false

mutual

/-- Reads a node. Outside brackets it may be a block, and behind a key also a
sequence whose dashes are not indented. Every two steps take a token, so the
steps do not run out. -/
def node (block indentless : Bool) : (steps : Nat) → Parse Node
  | 0 => fail .tooDeep
  | steps + 1 => do
    match ← peek with
    | some (.aliasOf name) =>
      skip
      match (← get).anchors.lookup name with
      | some number => return .aliasOf number
      | none => fail .unknownAlias
    | _ =>
      let properties ← readProperties
      match ← peek with
      | some (.scalar style text) =>
        skip
        return .scalar properties style text
      | some .flowSequenceStart =>
        skip
        return .sequence properties (← flowItems true [] steps)
      | some .flowMappingStart =>
        skip
        return .mapping properties (← flowEntries true [] steps)
      | kind =>
        if indentless ∧ kind = some .blockEntry then
          return .sequence properties (← indentlessItems [] steps)
        else if block ∧ kind = some .blockSequenceStart then
          skip
          return .sequence properties (← blockItems [] steps)
        else if block ∧ kind = some .blockMappingStart then
          skip
          return .mapping properties (← blockEntries [] steps)
        else if properties.anchor.isSome ∨ properties.tag.isSome then
          return .scalar properties .plain ""
        else fail .missingContent

/-- Reads a node, or nothing before one of these tokens. -/
def nodeUnless (block indentless : Bool) (kinds : List TokenKind) : (steps : Nat) → Parse Node
  | 0 => fail .tooDeep
  | steps + 1 => do
    if ← comesNext kinds then return .empty else node block indentless steps

/-- Reads the items of a block sequence; `done` holds those before, last one
first. -/
def blockItems (done : List Node) : (steps : Nat) → Parse (List Node)
  | 0 => fail .tooDeep
  | steps + 1 => do
    if ← accept .blockEntry then
      let item ← nodeUnless true false [.blockEntry, .blockEnd] steps
      blockItems (item :: done) steps
    else if ← accept .blockEnd then return done.reverse
    else fail .missingEntry

/-- Reads the items of a sequence whose dashes are not indented. -/
def indentlessItems (done : List Node) : (steps : Nat) → Parse (List Node)
  | 0 => fail .tooDeep
  | steps + 1 => do
    if ← accept .blockEntry then
      let item ← nodeUnless true false [.blockEntry, .key, .value, .blockEnd] steps
      indentlessItems (item :: done) steps
    else return done.reverse

/-- Reads the entries of a block mapping. -/
def blockEntries (done : List (Node × Node)) : (steps : Nat) → Parse (List (Node × Node))
  | 0 => fail .tooDeep
  | steps + 1 => do
    if ← accept .key then
      let key ← nodeUnless true true [.key, .value, .blockEnd] steps
      let value ← if ← accept .value then nodeUnless true true [.key, .value, .blockEnd] steps
        else pure .empty
      blockEntries ((key, value) :: done) steps
    else if ← accept .blockEnd then return done.reverse
    else fail .missingKey

/-- Reads the items of a sequence in brackets. An item with a key is a mapping of
one entry. -/
def flowItems (first : Bool) (done : List Node) : (steps : Nat) → Parse (List Node)
  | 0 => fail .tooDeep
  | steps + 1 => do
    if ← accept .flowSequenceEnd then return done.reverse
    if !first then
      if !(← accept .flowEntry) then fail .missingFlowEntry
    if ← accept .key then
      let entry ← flowPair steps
      flowItems false (.mapping ⟨none, none⟩ [entry] :: done) steps
    else if ← accept .flowSequenceEnd then return done.reverse
    else
      let item ← node false false steps
      flowItems false (item :: done) steps

/-- Reads the single entry of a mapping without brackets. Where the key is
missing, the token behind the question mark is passed over. -/
def flowPair : (steps : Nat) → Parse (Node × Node)
  | 0 => fail .tooDeep
  | steps + 1 => do
    let key ← if ← comesNext [.value, .flowEntry, .flowSequenceEnd] then do
        skip
        pure .empty
      else node false false steps
    let value ← if ← accept .value then
        nodeUnless false false [.flowEntry, .flowSequenceEnd] steps
      else pure .empty
    return (key, value)

/-- Reads the entries of a mapping in braces. -/
def flowEntries (first : Bool) (done : List (Node × Node)) :
    (steps : Nat) → Parse (List (Node × Node))
  | 0 => fail .tooDeep
  | steps + 1 => do
    if ← accept .flowMappingEnd then return done.reverse
    if !first then
      if !(← accept .flowEntry) then fail .missingFlowEntry
    if ← accept .key then
      let key ← nodeUnless false false [.value, .flowEntry, .flowMappingEnd] steps
      let value ← if ← accept .value then
          nodeUnless false false [.flowEntry, .flowMappingEnd] steps
        else pure .empty
      flowEntries false ((key, value) :: done) steps
    else if ← accept .flowMappingEnd then return done.reverse
    else
      let key ← node false false steps
      flowEntries false ((key, .empty) :: done) steps

end

/-! ## Documents -/

/-- Reads directives: at most one for the version, which is 1.1 or 1.2, and one
for each tag handle. -/
def directives (versionSeen : Bool) : (steps : Nat) → Parse Unit
  | 0 => fail .tooDeep
  | steps + 1 => do
    match ← peek with
    | some (.versionDirective major minor) =>
      if versionSeen then fail .repeatedDirective
      if major ≠ 1 ∨ (minor ≠ 1 ∧ minor ≠ 2) then fail .unsupportedVersion
      skip
      directives true steps
    | some (.tagDirective handle lead) =>
      if ((← get).handles.lookup handle).isSome then fail .repeatedDirective
      modify fun g => { g with handles := (handle, lead) :: g.handles }
      skip
      directives versionSeen steps
    | _ => return ()

/-- The tag handles that every document knows; a directive for one of them goes
before. -/
def standardHandles : List (String × Octets) :=
  [("!", [0x21]), ("!!", Octets.ofString "tag:yaml.org,2002:")]

/-- Whether the next token begins an explicit document. -/
def atExplicitStart : Parse Bool := do
  match ← peek with
  | some (.versionDirective _ _) | some (.tagDirective _ _) | some .documentStart => return true
  | _ => return false

/-- Reads marks of the end of a document. -/
def documentEnds : (steps : Nat) → Parse Unit
  | 0 => return ()
  | steps + 1 => do
    if ← accept .documentEnd then documentEnds steps else return ()

/-- Reads a text with at most one document. -/
def stream (steps : Nat) : Parse (Option Node) := do
  if (← peek).isNone then return none
  let explicit ← atExplicitStart
  if explicit then
    directives false steps
    if !(← accept .documentStart) then fail .missingDocumentStart
  modify fun g => { g with handles := g.handles ++ standardHandles }
  let bare ← if explicit then
      pure ((← peek).isNone || (← atExplicitStart) || (← comesNext [.documentEnd]))
    else pure false
  let root ← if bare then pure .empty else node true false steps
  documentEnds steps
  if (← peek).isNone then return some root
  else if ← atExplicitStart then fail .severalDocuments
  else fail .missingDocumentStart

end Parse

/-- The node of a text that holds at most one document. -/
def Node.ofTokens (tokens : List Token) : Except Error (Option Node) :=
  ((Parse.stream (4 * tokens.length + 4)).run ⟨tokens, [], []⟩).map (·.1)

end TmuxLayout.Yaml
