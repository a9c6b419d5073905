/-!
# Tokens of YAML text

Indentation and simple keys leave no trace in tokens: the starts and ends of
collections and the keys they imply are tokens of their own.
-/

namespace GraphTable.Yaml

inductive Style where
  | plain
  | singleQuoted
  | doubleQuoted
  | literal
  | folded
  deriving Repr, DecidableEq

/-- A tag, or the front of one. It consists of bytes that need not make up
characters, and none of them is zero. -/
abbrev Tag :=
  List UInt8

inductive Token where
  | version (major minor : Nat)
  | abbreviation (handle : String) (expansion : Tag)
  | documentStart
  | documentEnd
  | blockSequenceStart
  | blockMappingStart
  | blockEnd
  | flowSequenceStart
  | flowSequenceEnd
  | flowMappingStart
  | flowMappingEnd
  | blockEntry
  | flowEntry
  | key
  | value
  | anchor (name : String)
  | reference (name : String)
  | tag (handle : String) (suffix : Tag)
  | scalar (style : Style) (text : String)
  deriving Repr, DecidableEq

end GraphTable.Yaml
