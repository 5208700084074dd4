/-!
# Faults of YAML texts

- `Yaml.Place`: a place in a text.
- `Yaml.Cause`: what is wrong there.
- `Yaml.Error`, `Yaml.Error.message`: both together, and in words.
-/

namespace TmuxLayout.Yaml

/-- A place in a text: line and column, and the number of octets before it in
UTF-8. All three count from zero. -/
structure Place where
  line : Nat
  column : Nat
  index : Nat
deriving Repr, DecidableEq, Inhabited

/-- What is wrong with a text. -/
inductive Cause where
  | forbiddenCharacter
  | unexpectedCharacter
  | documentMarkInScalar
  | unterminatedScalar
  | unknownEscape
  | malformedEscape
  | colonInPlainScalar
  | tabAsIndentation
  | zeroIndentation
  | trailingText
  | malformedDirective
  | unsupportedVersion
  | repeatedDirective
  | malformedAnchor
  | malformedTag
  | unknownTagHandle
  | missingColon
  | misplacedKey
  | misplacedValue
  | misplacedEntry
  | missingEntry
  | missingKey
  | missingFlowEntry
  | missingContent
  | missingDocumentStart
  | severalDocuments
  | unknownAlias
  | repeatedKey
  | tooDeep
  | tooManyAliases
  | invalidScalar
deriving Repr, DecidableEq

/-- A cause in words. -/
def Cause.message : Cause → String
  | forbiddenCharacter => "control characters are not allowed"
  | unexpectedCharacter => "found a character that cannot start any token"
  | documentMarkInScalar => "found a document mark inside a quoted scalar"
  | unterminatedScalar => "a quoted scalar does not end"
  | unknownEscape => "unknown escape character"
  | malformedEscape => "malformed escape"
  | colonInPlainScalar => "found an unexpected ':' in a plain scalar"
  | tabAsIndentation => "found a tab where indentation is expected"
  | zeroIndentation => "an indentation indicator must not be zero"
  | trailingText => "expected a comment or a line break"
  | malformedDirective => "malformed directive"
  | unsupportedVersion => "unsupported version of the language"
  | repeatedDirective => "repeated directive"
  | malformedAnchor => "malformed anchor or alias"
  | malformedTag => "malformed tag"
  | unknownTagHandle => "unknown tag handle"
  | missingColon => "expected ':' behind a key"
  | misplacedKey => "mapping keys are not allowed here"
  | misplacedValue => "mapping values are not allowed here"
  | misplacedEntry => "sequence entries are not allowed here"
  | missingEntry => "expected '-'"
  | missingKey => "expected a key"
  | missingFlowEntry => "expected ',' or a closing bracket"
  | missingContent => "expected the content of a node"
  | missingDocumentStart => "expected the start of a document"
  | severalDocuments => "more than one document"
  | unknownAlias => "unknown alias"
  | repeatedKey => "repeated key"
  | tooDeep => "nested too deeply"
  | tooManyAliases => "aliases expand to too much"
  | invalidScalar => "a scalar does not fit its tag"

/-- A fault and its place. -/
structure Error where
  cause : Cause
  place : Place
deriving Repr, DecidableEq

/-- The fault in words; people count lines and columns from one. -/
def Error.message (error : Error) : String :=
  error.cause.message ++ " at line " ++ toString (error.place.line + 1) ++
    " column " ++ toString (error.place.column + 1)

end TmuxLayout.Yaml
