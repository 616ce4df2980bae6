/-!
# Tokens of YAML

The tokens of a YAML text. The start and the end of a block collection have no text of their own:
they follow from indentation, and so does the token before a simple key.
-/

namespace Adventure.Yaml

/-- A tag as it is written: a handle that stands for the start of the tag, and the rest. The handle
is empty for a tag that is written in full. -/
structure TagName where
  handle : List Char
  rest : List Char
  deriving DecidableEq, Repr

inductive Token where
  | streamEnd
  | version (major minor : Nat)
  /-- What a handle stands for. -/
  | handle (name start : List Char)
  | documentStart | documentEnd
  | blockSequenceStart | blockMappingStart | blockEnd
  | flowSequenceStart | flowSequenceEnd | flowMappingStart | flowMappingEnd
  /-- The start of an element of a block sequence. -/
  | entry
  | comma
  | key | value
  | anchor (name : List Char)
  | alias (name : List Char)
  | tag (name : TagName)
  /-- A scalar is plain if it is written without quotes and not as a block. -/
  | scalar (plain : Bool) (text : List Char)
  deriving DecidableEq, Repr

end Adventure.Yaml
