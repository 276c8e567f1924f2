/-!
# Faults of a YAML text
-/

namespace Colloquy
namespace Yaml

/-- Why a text is no single YAML document of the expected form. -/
inductive Error where
  | forbiddenCharacter
  | tabInIndentation
  | valueExpected
  | misplacedEntry
  | misplacedKey
  | misplacedValue
  | unknownToken
  | badDirective
  | badAnchor
  | badTag
  | badBlockHeader
  | badEscape
  | openScalar
  | unexpectedIndicator
  | unexpectedToken
  | unknownAnchor
  | tooDeep
  | tooManyAliases
  | severalDocuments
  | noDocument
  | duplicateKey
  | duplicateField
  | missingField
  | unknownField
  | wrongKind
  | integerTooLarge
  | stepsExhausted
deriving DecidableEq, Repr

namespace Error

def message : Error -> String
  | forbiddenCharacter => "control characters are not allowed"
  | tabInIndentation => "a tab stands where blanks are expected"
  | valueExpected => "could not find expected ':'"
  | misplacedEntry => "block sequence entries are not allowed in this context"
  | misplacedKey => "mapping keys are not allowed in this context"
  | misplacedValue => "mapping values are not allowed in this context"
  | unknownToken => "found character that cannot start any token"
  | badDirective => "malformed directive"
  | badAnchor => "malformed anchor or alias"
  | badTag => "malformed tag"
  | badBlockHeader => "malformed header of a block scalar"
  | badEscape => "malformed escape in a quoted scalar"
  | openScalar => "a quoted scalar does not end"
  | unexpectedIndicator => "found unexpected indicator"
  | unexpectedToken => "did not find expected node content"
  | unknownAnchor => "unknown anchor"
  | tooDeep => "recursion limit exceeded"
  | tooManyAliases => "repetition limit exceeded"
  | severalDocuments => "more than one document"
  | noDocument => "the text holds no document"
  | duplicateKey => "duplicate key"
  | duplicateField => "duplicate field"
  | missingField => "missing field"
  | unknownField => "unknown field"
  | wrongKind => "a node of another kind is expected"
  | integerTooLarge => "integer out of range"
  | stepsExhausted => "the text was not read to its end"

end Error
end Yaml
end Colloquy
