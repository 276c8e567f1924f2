/-!
# Faults of a pattern
-/

namespace Colloquy
namespace Pattern

/-- Why a text is no pattern. -/
inductive Error where
  | openGroup
  | strayParenthesis
  | nothingToRepeat
  | badCount
  | badEscape
  | openSet
  | badRange
  | badGroup
  | badFlag
  | lookAround
  | backReference
  | unknownProperty
  | notText
  | tooDeep
  | tooLarge
  | stepsExhausted
deriving DecidableEq, Repr

namespace Error

def message : Error -> String
  | openGroup => "unclosed group"
  | strayParenthesis => "unopened group"
  | nothingToRepeat => "repetition operator missing expression"
  | badCount => "malformed repetition count"
  | badEscape => "unrecognized escape sequence"
  | openSet => "unclosed character class"
  | badRange => "invalid character class range"
  | badGroup => "malformed group name"
  | badFlag => "malformed flags"
  | lookAround => "look-around is not supported"
  | backReference => "backreferences are not supported"
  | unknownProperty => "Unicode property not found"
  | notText => "pattern can match invalid UTF-8"
  | tooDeep => "exceeded the maximum number of nested expressions"
  | tooLarge => "compiled pattern exceeds the size limit"
  | stepsExhausted => "the pattern was not read to its end"

end Error
end Pattern
end Colloquy
