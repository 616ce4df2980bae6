import Adventure.Text.Blank
import Adventure.Text.Lines

/-!
# Frontmatter

A room file starts with metadata between two fences. The text of the room follows.
-/

namespace Adventure.RoomFile

open Text

/-- A file with its metadata set apart. -/
structure Parts where
  metadata : List Char
  body : List Char
  deriving DecidableEq, Repr

/-- A line that fences the metadata; white space after its hyphens does not matter. -/
def isFence (line : List Char) : Bool :=
  trimEnd line == ['-', '-', '-']

/-- Without a byte order mark at the start. -/
def dropByteOrderMark : List Char → List Char
  | '\ufeff' :: cs => cs
  | cs             => cs

/-- The parts of a text before and after the first fence among its lines. -/
def splitAtFence : List (List Char) → Option Parts
  | []      => none
  | l :: ls =>
    if isFence l then some ⟨[], ls.flatten⟩
    else (splitAtFence ls).map fun p => { p with metadata := l ++ p.metadata }

/-- The metadata and the body of a file. The first line has to be a fence, and there has to be
another one. -/
def split (text : List Char) : Option Parts :=
  match lines (dropByteOrderMark text) with
  | []      => none
  | l :: ls => if isFence l then splitAtFence ls else none

/-- A line without any metadata: white space, or a comment after it. -/
def isBlankOrComment (line : List Char) : Bool :=
  let line := trim line
  line.isEmpty || line.head? == some '#'

/-- A text without any metadata. -/
def isBlankMetadata (text : List Char) : Bool :=
  (lines text).all isBlankOrComment

end Adventure.RoomFile
