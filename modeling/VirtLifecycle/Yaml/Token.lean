/-
Module: VirtLifecycle.Yaml.Token
Purpose: The tokens of YAML documents. Blocks are told by indentation, so tokens mark where they begin
  and end.
Specification: [SPEC 10 Serialization]: manifests are YAML documents.
Main exports: Yaml.Token, Yaml.Style
-/

namespace VirtLifecycle.Yaml

/-- How a scalar is written. -/
inductive Style where
  | plain
  | singleQuoted
  | doubleQuoted
  | literal
  | folded
deriving DecidableEq, Repr, Inhabited

/-- A token. -/
inductive Token where
  | version (major minor : Nat)
  | tagShorthand (handle expansion : String)
  | documentStart
  | documentEnd
  | blockSequenceStart
  | blockMappingStart
  | blockEnd
  | flowSequenceStart
  | flowSequenceEnd
  | flowMappingStart
  | flowMappingEnd
  | blockEntry
  | flowEntry
  | key
  | value
  | reference (name : String)
  | anchor (name : String)
  | tag (handle suffix : String)
  | scalar (value : String) (style : Style)
  | streamEnd
deriving DecidableEq, Repr, Inhabited

end VirtLifecycle.Yaml
