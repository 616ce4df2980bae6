/-!
# Positions in a YAML text

A YAML text is read character by character. Its structure depends on lines and columns, so a
position counts them.
-/

namespace Adventure.Yaml

/-! ### Characters -/

def isBreak (c : Char) : Bool :=
  c == '\n' || c == '\r' || c == '\u0085' || c == '\u2028' || c == '\u2029'

def isBlank (c : Char) : Bool :=
  c == ' ' || c == '\t'

/-- A character of the names of anchors, directives and tags. -/
def isWordChar (c : Char) : Bool :=
  c.isAlphanum || c == '_' || c == '-'

/-- A character that a text may contain. Most control characters are refused. -/
def isAllowed (c : Char) : Bool :=
  let n := c.toNat
  n == 0x09 || n == 0x0A || n == 0x0D || (0x20 ≤ n && n ≤ 0x7E) || n == 0x85 ||
    (0xA0 ≤ n && n ≤ 0xD7FF) || (0xE000 ≤ n && n ≤ 0xFFFD) || 0x10000 ≤ n

/-! ### Cursors -/

structure Cursor where
  /-- The text from the position on. -/
  rest : List Char
  line : Nat := 0
  column : Nat := 0
  /-- How many characters precede the position. -/
  index : Nat := 0

namespace Cursor

def ahead? (c : Cursor) (n : Nat) : Option Char :=
  c.rest[n]?

def head? (c : Cursor) : Option Char :=
  c.rest.head?

def isAt (c : Cursor) (ch : Char) : Bool :=
  c.rest.head? == some ch

def atEnd (c : Cursor) : Bool :=
  c.rest.isEmpty

def atBreak (c : Cursor) : Bool :=
  c.rest.head?.any isBreak

def atBlank (c : Cursor) : Bool :=
  c.rest.head?.any isBlank

/-- A blank, a line break or the end stands `n` characters ahead. -/
def isSpaceAhead (c : Cursor) (n : Nat) : Bool :=
  (c.ahead? n).all fun ch => isBlank ch || isBreak ch

def atLineEnd (c : Cursor) : Bool :=
  c.rest.head?.all isBreak

def next (c : Cursor) : Cursor :=
  match c.rest with
  | []        => c
  | _ :: rest => ⟨rest, c.line, c.column + 1, c.index + 1⟩

def skip (c : Cursor) (n : Nat) : Cursor :=
  let n := min n c.rest.length
  ⟨c.rest.drop n, c.line, c.column + n, c.index + n⟩

/-- The characters at the position that have a property, all on one line, and the position after
them. -/
def takeWhile (c : Cursor) (p : Char → Bool) : List Char × Cursor :=
  let taken := c.rest.takeWhile p
  (taken, c.skip taken.length)

def skipWhile (c : Cursor) (p : Char → Bool) : Cursor :=
  (c.takeWhile p).2

/-- Takes a line break: how a scalar keeps it, and the position after it. The breaks of a line are one
character in a scalar, except for the separators of lines and of paragraphs. -/
def takeBreak (c : Cursor) : List Char × Cursor :=
  match c.rest with
  | '\r' :: '\n' :: rest => (['\n'], ⟨rest, c.line + 1, 0, c.index + 2⟩)
  | ch :: rest =>
    if ch == '\u2028' || ch == '\u2029' then ([ch], ⟨rest, c.line + 1, 0, c.index + 1⟩)
    else if isBreak ch then (['\n'], ⟨rest, c.line + 1, 0, c.index + 1⟩)
    else ([], c)
  | [] => ([], c)

def skipBreak (c : Cursor) : Cursor :=
  c.takeBreak.2

/-- The position after a comment, which goes on until the end of the line. -/
def skipComment (c : Cursor) : Cursor :=
  if c.isAt '#' then c.skipWhile fun ch => !isBreak ch else c

/-- The mark, three times `ch`, at the start of a line and before a space. -/
def atMark (c : Cursor) (ch : Char) : Bool :=
  c.column == 0 && c.rest.take 3 == [ch, ch, ch] && c.isSpaceAhead 3

def atDocumentMark (c : Cursor) : Bool :=
  c.atMark '-' || c.atMark '.'

end Cursor

end Adventure.Yaml
