import Adventure.Markdown.Block
import Adventure.Markdown.RawHtml
import Adventure.Markdown.Reference

/-!
# Open containers

While a document is read, some containers are open: quotations, lists, items, definitions and
footnotes. A line continues those whose marks or indentation it repeats. Text may go on in a line that
does not continue all of them, unless the line starts something else.
-/

namespace Adventure.Markdown

/-- The lines of a footnote are indented by so many columns. -/
def footnoteIndent : Nat := 4

namespace Container

/-- What is left of a line that is indented enough, or empty. -/
def indented (s : Source) (indent : Nat) (c : Cursor) : Option Cursor :=
  let (missing, c) := c.skip s indent
  if missing = 0 || c.atEnd s then some c else none

/-- What is left of a line that continues the container. -/
def continues (s : Source) (c : Cursor) : Container → Option Cursor
  | .quote             => quoteMarker? s (c.indent s 3).2
  | .item indent       => indented s indent c
  | .definition indent => indented s indent c
  | .footnote _        => indented s footnoteIndent c
  | _                  => some c

/-- The number of containers, from the outermost on, that a line continues, and what is left of it. -/
def countContinued (s : Source) : List Container → Cursor → Nat × Cursor
  | [],      c => (0, c)
  | k :: ks, c =>
    match k.continues s c with
    | none   => (0, c)
    | some c =>
      let (n, c) := countContinued s ks c
      (n + 1, c)

/-- Where the content of a line starts, behind the marks and the indentation of containers. -/
def contentStart (s : Source) (ks : List Container) (i : Nat) : Nat :=
  (countContinued s ks (Cursor.start i)).2.place

/-- The block of a container with blocks inside. What is no entry of a list of definitions follows
the list. -/
def close (inside : List Block) : Container → List Block
  | .quote                => [.quote inside]
  | .list tight mark n    =>
    let start := if mark == '.' || mark == ')' then some n else none
    [.list start (if tight then inside.map .tighten else inside)]
  | .item _               => [.item inside]
  | .definition _         => [.definition inside]
  | .definitionList tight =>
    let isEntry : Block → Bool
      | .title _ | .definition _ => true
      | _                        => false
    let entries := inside.takeWhile isEntry
    let after := (inside.dropWhile isEntry).map fun
      | .candidate text => .paragraph text
      | b               => b
    .definitionList (if tight then entries.map .tighten else entries) :: after
  | .footnote label       => [.footnote label inside]

def isDefinition : Container → Bool
  | .definition _ => true
  | _             => false

end Container

/-! ### What ends a block -/

/-- A block whose lines are being read. -/
inductive Leaf where
  | none
  | paragraph
  | table
  deriving DecidableEq, Repr

/-- Where a line is read: the open containers, from the outermost on, and the block before it that
may go on. -/
structure Site where
  extensions : Extensions
  containers : List Container
  leaf : Leaf := .none

namespace Site

/-- Whether a line continues all containers, and what is left of it. -/
def enter (site : Site) (s : Source) (i : Nat) : Bool × Cursor :=
  let (n, c) := Container.countContinued s site.containers (Cursor.start i)
  (n = site.containers.length, c)

def inTable (site : Site) : Bool :=
  site.leaf == .table

/-- The place behind the label and the colon that start a footnote, and the label. The label stands in
one line. -/
def footnoteStart? (site : Site) (s : Source) (i : Nat) : Option (Nat × List Char) :=
  if site.extensions.footnotes && s.startsWith i ['[', '^'] then
    (label? s site.inTable (fun _ => none) (i + 2)).bind fun (j, label) =>
      if s.has j ':' then some (j + 1, label) else none
  else none

/-- A list item ends a paragraph if it is a bullet or the number one, and not empty. A line that does
not continue all containers ends it with any item. -/
def interruptedByItem (site : Site) (s : Source) (own : Bool) (i : Nat) : Bool :=
  (bareMarker? s (Cursor.start i)).any fun (m, c) =>
    !own || site.inTable || ((!(m.mark == '.' || m.mark == ')') || m.number = 1) && !c.blank s)

/-- A colon ends a paragraph as the start of its definition, and a definition that goes on. -/
def interruptedByDefinition (site : Site) (s : Source) (own : Bool) (i : Nat) : Bool :=
  let around := if site.leaf == .none then site.containers.dropLast else site.containers
  site.extensions.definitionLists && s.has i ':' &&
    ((own && site.leaf == .paragraph) || around.getLast?.any Container.isDefinition)

/-- A line that ends a paragraph or a table before it, tables apart. A line is `own` if it continues
all containers. -/
def interruptsRow (site : Site) (s : Source) (own : Bool) (i : Nat) : Bool :=
  (s.lineEnd? i).isSome || (ruleEnd? s i).isSome || (headingLevel? s i).isSome ||
    (fence? s i).isSome || s.has i '>' || site.interruptedByItem s own i ||
    (s.has i '<' && ((htmlBlockEnd? s (i + 1)).isSome || startsHtmlBlock s (i + 1))) ||
    site.interruptedByDefinition s own i || (site.footnoteStart? s i).isSome

/-- The alignments of the table whose head starts at a place, and the place behind the line below the
head. -/
def tableStart? (site : Site) (s : Source) (i : Nat) : Option (List Alignment × Nat) := do
  let j := s.runEnd (!isLineEnd ·) i
  if !site.extensions.tables || s.stop ≤ j || !(List.range' i (j - i)).any s.isBar then none
  let next ← s.lineEnd? j
  let (own, c) := site.enter s next
  let (alignments, stop) ← delimiterRow? s c
  if own && alignments.length = countCells s i j then some (alignments, stop) else none

/-- A line that ends a paragraph before it. -/
def interrupts (site : Site) (s : Source) (own : Bool) (i : Nat) : Bool :=
  site.interruptsRow s own i || (s.has i '|' && (site.tableStart? s i).isSome)

/-- Where the label or the title of a definition goes on in a line, if it does. -/
def content? (site : Site) (s : Source) (i : Nat) : Option Nat :=
  let (own, c) := site.enter s i
  let (missing, c) := c.skip s 4
  let ends := site.interrupts s own c.place || (own && (underline? s c.place).isSome)
  if c.blank s || (0 < missing && ends) then none else some c.place

end Site

/-! ### The reader's state -/

/-- An open container and the blocks in it, the latest first. -/
structure Frame where
  container : Container
  blocks : List Block := []
  deriving Repr

/-- What inline text may refer to. -/
structure Definitions where
  /-- The targets of labels, by their keys. -/
  links : List (List Char × Target) := []
  /-- The keys of the labels of footnotes. -/
  footnotes : List (List Char) := []
  deriving Repr

/-- How far a document has been read. -/
structure BlockState where
  /-- The open containers, from the innermost on. -/
  frames : List Frame := []
  /-- The blocks outside all open containers, the latest first. -/
  blocks : List Block := []
  /-- The last line was blank. -/
  lastBlank : Bool := false
  /-- The last line was the blank start of an item. -/
  atItemStart : Bool := false
  definitions : Definitions := {}

namespace BlockState

/-- The open containers, from the outermost on. -/
def containers (st : BlockState) : List Container :=
  (st.frames.map Frame.container).reverse

def site (st : BlockState) (extensions : Extensions) (leaf : Leaf := .none) : Site :=
  ⟨extensions, st.containers, leaf⟩

def addAll (st : BlockState) (bs : List Block) : BlockState :=
  match st.frames with
  | []      => { st with blocks := bs.reverse ++ st.blocks }
  | f :: fs => { st with frames := { f with blocks := bs.reverse ++ f.blocks } :: fs }

def add (st : BlockState) (b : Block) : BlockState :=
  st.addAll [b]

def latest? (st : BlockState) : Option Block :=
  match st.frames with
  | []     => st.blocks.head?
  | f :: _ => f.blocks.head?

def dropLatest (st : BlockState) : BlockState :=
  match st.frames with
  | []      => { st with blocks := st.blocks.tail }
  | f :: fs => { st with frames := { f with blocks := f.blocks.tail } :: fs }

def innermost? (st : BlockState) : Option Container :=
  st.frames.head?.map Frame.container

def openContainer (st : BlockState) (container : Container) (blocks : List Block) : BlockState :=
  { st with frames := ⟨container, blocks⟩ :: st.frames }

def pop (st : BlockState) : BlockState :=
  match st.frames with
  | []      => st
  | f :: fs =>
    let atItemStart :=
      match f.container with
      | .list true .. | .definitionList _ => false
      | _                                 => st.atItemStart
    { st with frames := fs, atItemStart }.addAll (f.container.close f.blocks.reverse)

/-- Closes containers until `n` are open. -/
def popTo (st : BlockState) (n : Nat) : BlockState :=
  (List.replicate (st.frames.length - n) ()).foldl (fun st _ => st.pop) st

/-- The container becomes loose, if it is a list. -/
def Frame.loosen (f : Frame) : Frame :=
  match f.container with
  | .list _ mark n     => { f with container := .list false mark n }
  | .definitionList _  => { f with container := .definitionList false }
  | _                  => f

/-- The list around the innermost open container becomes loose after a blank line. -/
def loosenParent (st : BlockState) : BlockState :=
  match st.frames with
  | f :: g :: fs => { st with frames := f :: Frame.loosen g :: fs }
  | _            => st

/-- The innermost open container becomes loose, if it is a list and a blank line stands before. -/
def loosenIfBlank (st : BlockState) : BlockState :=
  match st.lastBlank, st.frames with
  | true, f :: fs => { st with frames := Frame.loosen f :: fs, lastBlank := false }
  | _,    _       => st

/-- An item that starts with two blank lines is empty. -/
def closeEmptyItem (st : BlockState) : BlockState :=
  let st' :=
    match st.innermost? with
    | some (.item _) | some (.definition _) =>
      if st.atItemStart && st.lastBlank then st.pop else st
    | _ => st
  { st' with atItemStart := false }

/-- Closes an open list before a block that is no item. A blank line before the block makes the list
around it loose. -/
def closeList (st : BlockState) : BlockState :=
  let st := st.closeEmptyItem
  let st :=
    match st.innermost? with
    | some (.list ..) | some (.definitionList _) => st.pop
    | _ => st
  if st.lastBlank then { st.loosenParent with lastBlank := false } else st

/-- Opens a list for an item, unless it continues the open one. -/
def continueList (st : BlockState) (m : ListMarker) : BlockState :=
  let st := st.closeEmptyItem
  let start (st : BlockState) : BlockState :=
    { st.openContainer (.list true m.mark m.number) [] with lastBlank := false }
  match st.innermost? with
  | some (.list _ mark _) => if mark == m.mark then st.loosenIfBlank else start st.closeList
  | _ => start st.closeList

/-- Counts a blank line. In a quotation it does not count, and an item that starts with it takes no
more lines. -/
def blankLine (st : BlockState) : BlockState :=
  match st.atItemStart, st.frames with
  | _, ⟨.quote, _⟩ :: _ => st
  | true, ⟨.item _, bs⟩ :: fs => { st with lastBlank := true, frames := ⟨.item 0, bs⟩ :: fs }
  | true, ⟨.definition _, bs⟩ :: fs =>
    { st with lastBlank := true, frames := ⟨.definition 0, bs⟩ :: fs }
  | _, _ => { st with lastBlank := true }

/-- Opens a list of definitions for a definition, unless it continues the open one. The paragraph
before it becomes what is defined. Nothing can be defined after anything else. -/
def continueDefinitions (st : BlockState) : Option BlockState :=
  match st.latest? with
  | some (.paragraph text) =>
    some ((st.dropLatest.openContainer (.definitionList true) [.title text]).loosenIfBlank)
  | some (.candidate text)  => some (st.dropLatest.add (.title text)).loosenIfBlank
  | some (.definition _)    => some st.loosenIfBlank
  | _ => none

end BlockState

end Adventure.Markdown
