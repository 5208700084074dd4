import TmuxLayout.Yaml.Error

/-!
# YAML tokens

- `Style`: how a scalar was written; only plain scalars stand for other values
  than strings.
- `TokenKind`, `Token`: the tokens of a text, each with its place.
-/

namespace TmuxLayout.Yaml

/-- How a scalar is written. -/
inductive Style where
  | plain
  | quoted
  | block
deriving Repr, DecidableEq

/-- The kinds of tokens. Indentation shows as starts and ends of blocks, and a
key that is found to be one by its colon has a `key` token put before it. -/
inductive TokenKind where
  | versionDirective (major minor : Nat)
  | tagDirective (handle : String) (lead : List UInt8)
  | documentStart
  | documentEnd
  | blockSequenceStart
  | blockMappingStart
  | blockEnd
  | flowSequenceStart
  | flowSequenceEnd
  | flowMappingStart
  | flowMappingEnd
  | blockEntry
  | flowEntry
  | key
  | value
  | aliasOf (name : String)
  | anchor (name : String)
  | tag (handle : String) (suffix : List UInt8)
  | scalar (style : Style) (text : String)
deriving Repr, DecidableEq

/-- A token and its place. -/
structure Token where
  kind : TokenKind
  place : Place
deriving Repr, DecidableEq

end TmuxLayout.Yaml
