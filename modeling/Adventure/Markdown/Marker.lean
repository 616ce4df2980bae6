import Adventure.Markdown.Cursor
import Adventure.Markdown.Event
import Adventure.Number.Integer

/-!
# Markers at the start of a line

What a block may start with, read off the characters of a line after its margin.
-/

namespace Adventure.Markdown

open Number

/-! ### Rules, headings and fences -/

/-- The place behind a line with three or more of the same of `*`, `-` and `_`, and blanks between
them. -/
def ruleEnd? (s : Source) (i : Nat) : Option Nat := do
  let c ← s.get? i
  let j := s.runEnd (fun d => d == c || isMargin d) i
  if (c == '*' || c == '-' || c == '_') && 3 ≤ (s.slice i j).count c then s.lineEnd? j else none

def headingLevel? (s : Source) (i : Nat) : Option Nat :=
  let level := s.count '#' i
  if 1 ≤ level && level ≤ 6 && (s.get? (i + level)).all isTagSpace then some level else none

/-- The level of a heading that this line underlines, and the place behind the line. -/
def underline? (s : Source) (i : Nat) : Option (Nat × Nat) := do
  let c ← s.get? i
  if c == '=' || c == '-' then
    let next ← s.blankLine? (i + s.count c i)
    some (if c == '=' then 1 else 2, next)
  else none

structure Fence where
  mark : Char
  count : Nat
  deriving Repr

/-- Three or more backticks or tildes. There is no backtick after backticks. -/
def fence? (s : Source) (i : Nat) : Option Fence := do
  let c ← s.get? i
  let count := s.count c i
  let hasBacktick := (s.slice (i + count) (s.nextLine i)).contains '`'
  if (c == '`' || c == '~') && 3 ≤ count && !(c == '`' && hasBacktick) then some ⟨c, count⟩ else none

/-- The end of the line that closes a fenced code block. The end of the text closes it as well. -/
def Fence.close? (f : Fence) (s : Source) (i : Nat) : Option Nat :=
  if s.stop ≤ i then some i
  else
    let count := s.count f.mark i
    let j := s.runEnd (· == ' ') (i + count)
    if f.count ≤ count && (s.lineEnd? j).isSome then some j else none

/-! ### Lists -/

/-- The marker of a list item. Items with the same character belong together. -/
structure ListMarker where
  mark : Char
  /-- The number of the item; zero without one. -/
  number : Nat
  /-- The columns by which the lines of the item are indented. -/
  indent : Nat
  deriving Repr

/-- The column in which the content after a marker starts. Four or more blanks after it belong to the
content. -/
def contentIndent (s : Source) (indent : Nat) (c : Cursor) : Nat × Cursor :=
  if c.blank s then (indent, c)
  else
    let (blanks, c') := c.indent s 4
    if blanks < 4 then (indent + blanks, c') else (indent, c)

/-- What follows a marker: a blank, or the end of the line. -/
def afterMarker (s : Source) (mark : Char) (number width : Nat) (c : Cursor) :
    Option (ListMarker × Cursor) :=
  let (missing, c) := (c.advance width).skip s 1
  if missing = 0 || c.atEnd s then some (⟨mark, number, width + 1⟩, c) else none

/-- A bullet, or up to nine digits with a point or a parenthesis. -/
def bareMarker? (s : Source) (c : Cursor) : Option (ListMarker × Cursor) := do
  let m ← s.get? c.place
  if m == '-' || m == '+' || m == '*' then
    if (ruleEnd? s c.place).isSome then none else afterMarker s m 0 1 c
  else
    let j := s.runEnd Char.isDigit c.place
    let d ← s.get? j
    if (d == '.' || d == ')') && c.place < j && j - c.place ≤ 9 then
      afterMarker s d (digitsValue (s.slice c.place j)) (j - c.place + 1) c
    else none

/-- The marker of a list item that is itself indented by `indent` columns, and its content. -/
def listMarker? (s : Source) (indent : Nat) (c : Cursor) : Option (ListMarker × Cursor) :=
  (bareMarker? s c).map fun (marker, c) =>
    let (indent, c) := contentIndent s (indent + marker.indent) c
    ({ marker with indent }, c)

/-- The colon of a definition that is itself indented by `indent` columns: the columns by which its
lines are indented, and its content. No blank has to follow it. -/
def definitionMarker? (s : Source) (indent : Nat) (c : Cursor) : Option (Nat × Cursor) :=
  if s.has c.place ':' then
    let (blank, c) := (c.advance 1).indent s 1
    some (contentIndent s (indent + 1 + blank) c)
  else none

def quoteMarker? (s : Source) (c : Cursor) : Option Cursor :=
  if s.has c.place '>' then some ((c.advance 1).skip s 1).2 else none

/-! ### Tables -/

/-- One column of the line below the head of a table. -/
structure ColumnState where
  alignment : Alignment := .unset
  /-- Nothing but blanks so far. -/
  fresh : Bool := true
  hasHyphen : Bool := false

def readColumns (s : ColumnState) : List Char → Option (List Alignment)
  | [] => some (if s.fresh then [] else [s.alignment])
  | c :: cs =>
    if c = ' ' then readColumns s cs
    else if c = ':' then
      let alignment :=
        match s.fresh, s.alignment with
        | true,  .unset => Alignment.left
        | false, .left  => .center
        | false, .unset => .right
        | _,     a      => a
      readColumns { s with alignment, fresh := false } cs
    else if c = '-' then readColumns { s with fresh := false, hasHyphen := true } cs
    else if c = '|' then
      if s.hasHyphen then (readColumns {} cs).map (s.alignment :: ·) else none
    else none

/-- The alignments of the columns, as the line below the head of a table gives them, and the place
behind the line. -/
def delimiterRow? (s : Source) (c : Cursor) : Option (List Alignment × Nat) := do
  let (blanks, c) := (Cursor.start c.place).indent s 4
  let j := s.runEnd (!isLineEnd ·) c.place
  let row := s.slice c.place j
  if 3 < blanks || !(row.contains '|' && row.contains '-') then none
  else
    let alignments ← readColumns {} (if s.has c.place '|' then row.drop 1 else row)
    let next ← s.lineEnd? j
    some (alignments, next)

/-- The number of cells in a line from a place up to another. Bars at its ends do not count. -/
def countCells (s : Source) (i j : Nat) : Nat :=
  let bars := (List.range' i (j - i)).filter s.isBar
  let first := if s.has (s.runEnd isInlineSpace i) '|' then 1 else 0
  let last := if bars.getLast?.any fun b => (s.blankLine? (b + 1)).isSome then 0 else 1
  bars.length - first + last

/-! ### Headings with attributes -/

/-- White space behind a block of attributes. -/
def isAfterAttributes (c : Char) : Bool :=
  isMargin c || isLineEnd c

def isAttributeChar (c : Char) : Bool :=
  !(c == '\x7b' || c == '\x7d' || c == '<' || c == '>' || c == '\\' || isLineEnd c)

/-- Cuts the block of attributes off the end of a heading. -/
def cutAttributes (cs : List Char) : Option (List Char × List Char) :=
  match cs.reverse.dropWhile isAfterAttributes with
  | '\x7d' :: rest =>
    match rest.dropWhile isAttributeChar with
    | '\x7b' :: before => some (before.reverse, (rest.takeWhile isAttributeChar).reverse)
    | _ => none
  | _ => none

/-- Adds one attribute. A single character of ASCII is none. -/
def HeadingAttributes.add (a : HeadingAttributes) (word : List Char) : HeadingAttributes :=
  if (String.ofList word).utf8ByteSize ≤ 1 then a
  else match word with
    | '#' :: cs => { a with id := some cs }
    | '.' :: cs => { a with classes := a.classes ++ [cs] }
    | cs =>
      let key := cs.takeWhile (· != '=')
      match cs.drop key.length with
      | _ :: value => { a with others := a.others ++ [(key, some value)] }
      | []         => { a with others := a.others ++ [(key, none)] }

def isAttributeSpace (c : Char) : Bool :=
  c == ' ' || c == '\t' || c == '\n' || c == '\x0c' || c == '\r'

def readAttributes (cs : List Char) : HeadingAttributes :=
  ((cs.splitBy fun a b => isAttributeSpace a == isAttributeSpace b).filter fun word =>
    !word.all isAttributeSpace).foldl .add {}

/-- The place where the block of attributes at the end of a heading starts, and the attributes. -/
def attributes? (s : Source) (i j : Nat) : Option (Nat × HeadingAttributes) :=
  (cutAttributes (s.slice i j)).map fun (text, block) => (i + text.length, readAttributes block)

/-- Where the text of a heading ends that is written from a place up to another: before the number
signs that close it, if a blank stands before them, and before the blanks. -/
def headingTextEnd (s : Source) (i j : Nat) : Nat :=
  let limit := s.runStart (fun c => c == ' ' || isLineEnd c) i j
  let closing := s.runStart (· == '#') i limit
  if closing ≤ i then i
  else
    let text := s.runStart (· == ' ') i closing
    if text < closing then text else limit

end Adventure.Markdown
