/-!
Tokens of a YAML text. Blocks are bracketed by start and end tokens that stand for a change of
indentation.
-/

set_option autoImplicit false
set_option relaxedAutoImplicit false

namespace TelemetrySim.Yaml

inductive Style where
  | plain | quoted | literal | folded
deriving DecidableEq

inductive Token where
  | versionDirective (major minor : Nat)
  | tagDirective (handle start : String)
  | documentStart
  | documentEnd
  | blockSequenceStart
  | blockMappingStart
  | blockEnd
  | flowSequenceStart
  | flowSequenceEnd
  | flowMappingStart
  | flowMappingEnd
  | blockEntry
  | flowEntry
  | key
  | value
  | alias (name : String)
  | anchor (name : String)
  | tag (handle suffix : String)
  | scalar (text : String) (style : Style)
  | streamEnd
deriving DecidableEq

end TelemetrySim.Yaml
