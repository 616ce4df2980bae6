/-!
# Markdown options

The extensions of Markdown that a project may turn on and off, and its emoji.
-/

namespace Adventure.Markdown

/-- The extensions of the syntax in force. -/
structure Extensions where
  /-- Text between two pairs of tildes is struck out. -/
  strikethrough : Bool := true
  /-- Text between single tildes is lowered. -/
  subscript : Bool := true
  tables : Bool := true
  footnotes : Bool := true
  definitionLists : Bool := true
  /-- A heading may end in a block such as `{#id .class}`. -/
  headingAttributes : Bool := true
  /-- Quotes, dashes and dots become their typographic forms. -/
  smartPunctuation : Bool := false
  deriving DecidableEq, Repr, Inhabited

/-- What a project may turn on and off. Emoji are replaced when the syntax has been read. -/
structure Options extends Extensions where
  /-- The names of emoji between colons become emoji. -/
  emoji : Bool := true
  deriving DecidableEq, Repr, Inhabited

end Adventure.Markdown
