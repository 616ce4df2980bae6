import Adventure.Markdown.Event
import Adventure.Markdown.Marker
import Adventure.Markdown.Token

/-!
# Blocks

The tree of the blocks of a document. Inline text is kept as tokens, since what they mean depends on
the definitions of the whole document.
-/

namespace Adventure.Markdown

inductive Container where
  | quote
  /-- A list without blank lines is tight. -/
  | list (tight : Bool) (mark : Char) (number : Nat)
  | item (indent : Nat)
  | definitionList (tight : Bool)
  | definition (indent : Nat)
  | footnote (label : List Char)
  deriving Repr

structure Passage where
  tokens : List Token
  /-- The containers around it, from the outermost on. -/
  containers : List Container
  /-- The place where the text ends. -/
  stop : Nat
  inTable : Bool := false
  deriving Repr, Inhabited

/-- The rows of a table, as the texts of their cells. -/
structure Table where
  alignments : List Alignment
  head : List Passage
  rows : List (List Passage)
  deriving Repr

inductive Block where
  | paragraph (text : Passage)
  /-- A paragraph of a list without blank lines has no tags. -/
  | plain (text : Passage)
  | heading (level : Nat) (attributes : HeadingAttributes) (text : Passage)
  | codeBlock (info : Option (List Char)) (text : List Char)
  | htmlBlock (lines : List (List Char))
  | rule
  | table (t : Table)
  | quote (inside : List Block)
  | list (start : Option Nat) (items : List Block)
  | item (inside : List Block)
  | definitionList (entries : List Block)
  /-- What is defined. -/
  | title (text : Passage)
  /-- A paragraph after a definition. It is what is defined next if a definition follows. -/
  | candidate (text : Passage)
  | definition (inside : List Block)
  | footnote (label : List Char) (inside : List Block)
  deriving Repr, Inhabited

namespace Block

/-- A paragraph without tags. -/
def loosen : Block → Block
  | .paragraph text => .plain text
  | b               => b

/-- The block inside a list without blank lines. -/
def tighten : Block → Block
  | .item inside       => .item (inside.map loosen)
  | .definition inside => .definition (inside.map loosen)
  | b                  => b

end Block

end Adventure.Markdown
