import TmuxLayout.Yaml.Scalar

/-!
# Reading YAML

The value of a text: tokens, then nodes, then values. Aliases stand for the value
of their node. Collections nest at most 128 deep, aliases counted in, and the
number of aliases that are followed is at most a hundred times the size of the
text's nodes; both keep an alias to a node around it from going on for ever.

- `Reading`: the anchored nodes and the limit.
- `Reading.value`: the value of a node at a depth.
- `Document.ofYaml`: the value of a text; null when the text holds no node.
-/

namespace TmuxLayout.Yaml

/-- What the reading of one text needs to know: the nodes that aliases stand for,
and how many aliases may be followed. -/
structure Reading where
  anchored : List (Nat × Node)
  limit : Nat

/-- The levels of collections that are allowed. -/
def maxDepth : Nat := 128

/-- Values are read with the count of aliases followed so far. -/
abbrev Resolve := StateT Nat (Except Cause)

namespace Reading

/-- The node that an alias stands for. -/
def target (reading : Reading) (anchor : Nat) : Resolve Node := do
  let count := (← get) + 1
  if count > reading.limit then throw .tooManyAliases
  set count
  match reading.anchored.lookup anchor with
  | some node => return node
  | none => throw .unknownAlias

/-- The value of a scalar, or of a collection by way of the functions for its
parts. -/
def valueWith (items : List Node → Resolve (List Document))
    (entries : List (Node × Node) → Resolve (List (Document × Document))) :
    Node → Resolve Document
  | .aliasOf _ => throw .unknownAlias
  | .scalar properties style text => do
    let value ← readScalar properties.tag style text
    return marked properties.tag value
  | .sequence properties nodes => do
    return marked properties.tag (.sequence (← items nodes))
  | .mapping properties nodes => do
    return marked properties.tag (.mapping (← entries nodes))
where
  /-- A value within its tag, if that is a local one. -/
  marked (tag : Option Tag) (value : Document) : Document :=
    match tag with
    | some (.named text) => .tagged text value
    | _ => value

/-- Reads entries one after the other and refuses a repeated key; `done` holds
those before, last one first. -/
def entriesWith (value : Node → Resolve Document) (done : List (Document × Document)) :
    List (Node × Node) → Resolve (List (Document × Document))
  | [] => return done.reverse
  | (key, node) :: rest => do
    let key ← value key
    if Document.hasKey done key then throw .repeatedKey
    let node ← value node
    entriesWith value ((key, node) :: done) rest

/-- The value of a node in which `depth` more levels of collections are
allowed. -/
def value (reading : Reading) : (depth : Nat) → Node → Resolve Document
  | depth, node => do
    let node ← match node with
      | .aliasOf anchor => reading.target anchor
      | node => pure node
    match depth with
    | 0 => valueWith (fun _ => throw .tooDeep) (fun _ => throw .tooDeep) node
    | depth + 1 =>
      valueWith (·.mapM (reading.value depth)) (entriesWith (reading.value depth) []) node

end Reading

/-- The value of a text. -/
def read (text : List Char) : Except Error Document := do
  let tokens ← Token.ofText text
  match ← Node.ofTokens tokens with
  | none => return .null
  | some node =>
    let reading : Reading := ⟨node.anchored.reverse, 100 * node.eventCount⟩
    match (reading.value maxDepth node).run 0 with
    | .ok (document, _) => return document
    | .error cause => throw ⟨cause, ⟨0, 0, 0⟩⟩

end TmuxLayout.Yaml

/-- The value of a YAML text. -/
def TmuxLayout.Document.ofYaml (text : String) : Except TmuxLayout.Yaml.Error TmuxLayout.Document :=
  TmuxLayout.Yaml.read text.toList
