import DroneSession.Bytes

namespace DroneSession

/-!
# Tokens of a document

A document is divided into scalars, their properties, indicators and the bounds of nested blocks.
Tags are resource names, whose octets need not be text.
-/

namespace Yaml

/-- The ways to write a scalar. -/
inductive ScalarStyle where
  | plain
  | singleQuoted
  | doubleQuoted
  /-- Indented lines that are kept. -/
  | literal
  /-- Indented lines that are joined. -/
  | folded
  deriving Repr, DecidableEq

/-- The tokens of documents. -/
inductive Token where
  | versionDirective (major minor : Nat)
  | tagDirective (handle : String) (expansion : Bytes)
  | documentStart
  | documentEnd
  | blockSequenceStart
  | blockMappingStart
  | blockEnd
  | flowSequenceStart
  | flowSequenceEnd
  | flowMappingStart
  | flowMappingEnd
  /-- The dash in front of an item. -/
  | blockEntry
  /-- The comma between two items. -/
  | flowEntry
  | key
  | value
  | alias (name : String)
  | anchor (name : String)
  | tag (handle : String) (suffix : Bytes)
  | scalar (style : ScalarStyle) (text : String)
  deriving Repr, DecidableEq

end Yaml

end DroneSession
