/-!
# Markdown events

A document in reading order: where its parts start and stop, and the text between.
-/

namespace Adventure.Markdown

inductive Alignment where
  | unset | left | center | right
  deriving DecidableEq, Repr

structure HeadingAttributes where
  id : Option (List Char) := none
  classes : List (List Char) := []
  others : List (List Char × Option (List Char)) := []
  deriving DecidableEq, Repr

/-- Where a link leads. -/
structure Target where
  destination : List Char
  title : List Char := []
  /-- The destination is a mail address. -/
  isEmail : Bool := false
  deriving DecidableEq, Repr

/-- The parts of a document that have an inside. -/
inductive Tag where
  | paragraph
  | heading (level : Nat) (attributes : HeadingAttributes)
  | quote
  /-- A fenced block has an info string, an indented block has none. -/
  | codeBlock (info : Option (List Char))
  | htmlBlock
  /-- An ordered list has the number of its first item. -/
  | list (start : Option Nat)
  | item
  | definitionList
  | definitionTitle
  | definition
  | footnote (label : List Char)
  | table (alignments : List Alignment)
  | tableHead
  | tableRow
  | tableCell
  | emphasis
  | strong
  | strikethrough
  | subscript
  | link (target : Target)
  | image (target : Target)
  deriving DecidableEq, Repr

/-- A step through a document. -/
inductive Event where
  | start (tag : Tag)
  | stop (tag : Tag)
  | text (cs : List Char)
  | code (cs : List Char)
  | html (cs : List Char)
  | softBreak
  | hardBreak
  | rule
  | footnoteReference (label : List Char)
  deriving DecidableEq, Repr

def Tag.around (tag : Tag) (inside : List Event) : List Event :=
  .start tag :: inside ++ [.stop tag]

/-- Texts that follow each other become one. -/
def mergeTexts : List Event → List Event
  | [] => []
  | .text a :: es =>
    match mergeTexts es with
    | .text b :: es => .text (a ++ b) :: es
    | es            => .text a :: es
  | e :: es => e :: mergeTexts es

end Adventure.Markdown
