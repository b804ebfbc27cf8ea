/-!
# Tokens

The words of a YAML text. Indentation has already been turned into starts and
ends of collections, and a scalar already holds its value, with its style kept
because only a plain one can be a number.

## Main definitions

* `Style`: How a scalar is written.
* `Token`: The words.
-/

namespace StoragePolicy

namespace Yaml

/-- How a scalar is written. -/
inductive Style where
  | plain
  | singleQuoted
  | doubleQuoted
  | literal
  | folded
  deriving DecidableEq

/-- The words of a YAML text. -/
inductive Token where
  | version (major minor : Nat)
  | tagShorthand (handle expansion : String)
  | documentStart
  | documentEnd
  | blockSequenceStart
  | blockMappingStart
  | blockEnd
  | flowSequenceStart
  | flowSequenceEnd
  | flowMappingStart
  | flowMappingEnd
  | blockEntry
  | flowEntry
  | key
  | value
  | alias (name : String)
  | anchor (name : String)
  | tag (handle suffix : String)
  | scalar (value : String) (style : Style)
  deriving DecidableEq

end Yaml

end StoragePolicy
