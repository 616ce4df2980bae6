import Adventure.Markdown.Source

/-!
# Columns of a line

The start of a line decides which containers it continues. Blanks are counted in columns, and a tab
reaches to the next multiple of four. A tab may be used up in part; what is left of it counts as
blanks.
-/

namespace Adventure.Markdown

/-- A place in the margin of a line. -/
structure Cursor where
  place : Nat
  /-- The place from which the columns are counted: the start of the line, or behind the last tab. -/
  origin : Nat
  /-- The columns left of a tab that was used up in part. -/
  pending : Nat := 0
  deriving Repr

namespace Cursor

def start (i : Nat) : Cursor :=
  ⟨i, i, 0⟩

/-- Uses up to `n` columns of blanks; the number of columns that were missing comes first. -/
def skipFrom (s : Source) (n : Nat) (c : Cursor) : Nat × Cursor :=
  if n = 0 then (0, c)
  else if s.has c.place ' ' then skipFrom s (n - 1) { c with place := c.place + 1 }
  else if s.has c.place '\t' then
    let next := c.place + 1
    let width := 4 - (c.place - c.origin) % 4
    if n < width then (0, ⟨next, next, width - n⟩) else skipFrom s (n - width) (start next)
  else (n, c)
termination_by n
decreasing_by all_goals omega

/-- Uses up to `n` columns of blanks; the number of columns that were missing comes first. -/
def skip (s : Source) (c : Cursor) (n : Nat) : Nat × Cursor :=
  if n ≤ c.pending then (0, { c with pending := c.pending - n })
  else skipFrom s (n - c.pending) { c with pending := 0 }

/-- Uses up to `n` columns of blanks; the number of columns used comes first. -/
def indent (s : Source) (c : Cursor) (n : Nat) : Nat × Cursor :=
  let (missing, c) := c.skip s n
  (n - missing, c)

def skipAll (s : Source) (c : Cursor) : Cursor :=
  { c with place := s.runEnd isMargin c.place, pending := 0 }

def atEnd (s : Source) (c : Cursor) : Bool :=
  (s.lineEnd? c.place).isSome

/-- Nothing but blanks is left of the line. -/
def blank (s : Source) (c : Cursor) : Bool :=
  (s.blankLine? c.place).isSome

/-- Passes `n` characters that are no blanks. -/
def advance (c : Cursor) (n : Nat) : Cursor :=
  { c with place := c.place + n }

end Cursor

end Adventure.Markdown
