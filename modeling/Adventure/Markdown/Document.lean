import Adventure.Markdown.Paragraph

/-!
# Reading documents

A document is read block by block. A line continues some of the open containers, may open others, and
starts a block with what is left of it; the block may go on over the lines that follow.
-/

namespace Adventure.Markdown

/-! ### Code and HTML -/

/-- The text of a line of code or HTML, with its line feed. A carriage return before the last character
is dropped. -/
def rawLine (s : Source) (i j : Nat) : List Char :=
  if 2 ≤ j && s.has (j - 2) '\r' then s.slice i (j - 2) ++ s.slice (j - 1) j else s.slice i j

/-- The text of a line of code behind its margin. The columns left of a tab become blanks. -/
def codeLine (s : Source) (c : Cursor) (j : Nat) : List Char :=
  List.replicate c.pending ' ' ++ rawLine s c.place j

/-- The lines of an indented code block from a place on, each with whether it is blank, and the place
behind them. -/
def indentedLines (site : Site) (s : Source) : Nat → Nat → List (Bool × List Char) × Nat
  | 0,        i => ([], i)
  | fuel + 1, i =>
    let (own, c) := site.enter s i
    let (missing, c) := c.skip s 4
    if !own || (0 < missing && !c.atEnd s) || s.stop ≤ c.place then ([], i)
    else
      let next := s.nextLine c.place
      let (lines, stop) := indentedLines site s fuel next
      ((c.blank s, codeLine s c next) :: lines, stop)

/-- Reads an indented code block whose first line is left from a place in it on. Blank lines at its end
do not belong to it. -/
def readIndented (o : Extensions) (s : Source) (st : BlockState) (c : Cursor) : BlockState × Nat :=
  let st := st.closeList
  let next := s.nextLine c.place
  let (lines, stop) := indentedLines (st.site o) s (s.stop + 1) next
  let lines := (false, codeLine s c next) :: lines
  let kept := (lines.reverse.dropWhile Prod.fst).reverse
  ({ st.add (.codeBlock none (kept.map Prod.snd).flatten) with
      lastBlank := lines.getLast?.any Prod.fst }, stop)

/-- The text of a fenced code block from a place on, and the place behind its closing line. -/
def fencedText (site : Site) (s : Source) (indent : Nat) (f : Fence) :
    Nat → Nat → List (List Char) × Nat
  | 0,        i => ([], i)
  | fuel + 1, i =>
    let (own, c) := site.enter s i
    if !own then ([], i)
    else
      let c := (c.indent s indent).2
      let (missing, c') := c.skip s (4 - indent)
      match if 0 < missing then f.close? s c'.place else none with
      | some stop => ([], (s.blankLine? stop).getD stop)
      | none =>
        let next := s.nextLine c.place
        let (lines, stop) := fencedText site s indent f fuel next
        (codeLine s c next :: lines, stop)

/-- Reads a fenced code block that starts at a place and is itself indented by `indent` columns. -/
def readFenced (o : Extensions) (s : Source) (st : BlockState) (indent : Nat) (f : Fence) (i : Nat) :
    BlockState × Nat :=
  let st := st.closeList
  let infoStart := s.runEnd isInlineSpace (i + f.count)
  let next := s.nextLine infoStart
  let info := s.slice infoStart (s.runStart isTagSpace infoStart next)
  let (lines, stop) := fencedText (st.site o) s indent f (s.stop + 1) next
  (st.add (.codeBlock (some (unescape false info)) lines.flatten), stop)

/-- The lines of a block of HTML after a line between two places, and the place behind them. With an end
mark the block ends after the line that holds it, without one before a blank line. -/
def htmlLines (site : Site) (s : Source) (mark : Option (List Char)) :
    Nat → Nat → Nat → List (List Char) × Nat
  | 0,        _, i => ([], i)
  | fuel + 1, start, i =>
    let (own, c) := site.enter s i
    let ends :=
      match mark with
      | some mark => ((s.upTo i).after? mark start).isSome
      | none      => c.blank s
    if !own || ends || s.stop ≤ c.place then ([], i)
    else
      let next := s.nextLine c.place
      let (lines, stop) := htmlLines site s mark fuel c.place next
      (codeLine s c next :: lines, stop)

/-- Reads a block of HTML that starts at a place and is itself indented by `indent` columns. -/
def readHtml (o : Extensions) (s : Source) (st : BlockState) (mark : Option (List Char))
    (indent i : Nat) : BlockState × Nat :=
  let st := st.closeList
  let next := s.nextLine i
  let (lines, stop) := htmlLines (st.site o) s mark (s.stop + 1) i next
  (st.add (.htmlBlock ((List.replicate indent ' ' ++ rawLine s i next) :: lines)), stop)

/-- The end mark of the block of HTML that starts at a place, if it has one. -/
def htmlBlock? (s : Source) (i : Nat) : Option (Option (List Char)) :=
  if !s.has i '<' then none
  else
    match htmlBlockEnd? s (i + 1) with
    | some mark => some (some mark)
    | none      => if startsHtmlBlock s (i + 1) || isSingleTag s (i + 1) then some none else none

/-! ### Blocks -/

/-- Reads a paragraph that starts at a place, or what starts like one: a table or an underlined
heading. After a definition a paragraph may be what is defined next. -/
def readParagraph (o : Extensions) (s : Source) (st : BlockState) (i : Nat) : BlockState × Nat :=
  let isCandidate :=
    match st.innermost?, st.latest? with
    | some (.definitionList _), some (.definition _) => true
    | _, _ => false
  let st := if isCandidate then { st with lastBlank := false } else st.closeList
  let site := st.site o .paragraph
  let line := readLine o s i
  let breaks := line.lineBreak.any fun t => t.kind == .hardBreak true
  match if breaks then none else site.tableStart? s i with
  | some (alignments, rows) =>
    let (table, stop) := readTable site s alignments i rows
    (st.add (.table table), stop)
  | none =>
    let p := paragraphLines site s (s.stop + 1) [] line
    match p.underline with
    | some level =>
      let st := st.add (underlinedHeading site s i level p)
      (if isCandidate then st.closeList else st, p.stop)
    | none =>
      let text : Passage := ⟨p.allTokens.reverse, site.containers, p.stop, false⟩
      (st.add (if isCandidate then .candidate text else .paragraph text), p.stop)

/-- Reads a paragraph with the definitions of links at its start. -/
def readText (o : Extensions) (s : Source) (st : BlockState) (i : Nat) : BlockState × Nat :=
  let rest := linkDefinitions (st.site o) s (s.stop + 1) [] i
  let links := st.definitions.links ++ rest.links
  let st := { st with definitions := { st.definitions with links } }
  if rest.isText then readParagraph o s st rest.place else (st.closeList, rest.place)

/-- Reads the block that starts in a line behind the marks of its containers. -/
def readLeaf (o : Extensions) (s : Source) (st : BlockState) (c : Cursor) : BlockState × Nat :=
  let pending := c.pending
  let (indent, c) := c.indent s 4
  let i := c.place
  if indent = 4 then readIndented o s st c
  else if let some mark := htmlBlock? s i then readHtml o s st mark (max pending indent) i
  else if let some next := ruleEnd? s i then (st.closeList.add .rule, next)
  else if let some level := headingLevel? s i then
    let st := st.closeList
    let (heading, next) := readHeading (st.site o) s i level
    (st.add heading, next)
  else if let some f := fence? s i then readFenced o s st indent f i
  else readText o s st i

/-- Opens a footnote. An open one ends here. -/
def openFootnote (st : BlockState) (label : List Char) : BlockState :=
  let st := st.closeList
  let st :=
    match st.innermost? with
    | some (.footnote _) => st.pop
    | _ => st
  let footnotes := labelKey label :: st.definitions.footnotes
  { st with definitions := { st.definitions with footnotes } }.openContainer (.footnote label) []

/-- Opens the containers that start in a line. What is left of the line is missing if it is the blank
start of an item, and the next line starts at a place. -/
def openContainers (o : Extensions) (s : Source) :
    Nat → BlockState → Cursor → BlockState × (Cursor ⊕ Nat)
  | 0, st, c => (st, .inl c)
  | fuel + 1, st, c =>
    let item (st : BlockState) (container : Container) (c : Cursor) : BlockState × (Cursor ⊕ Nat) :=
      let st := st.openContainer container []
      match s.blankLine? c.place with
      | some next => ({ st with atItemStart := true }, .inr next)
      | none      => openContainers o s fuel st c
    let (indent, c') := c.indent s 4
    if indent = 4 then (st, .inl c)
    else if let some (j, label) := (st.site o).footnoteStart? s c'.place then
      openContainers o s fuel (openFootnote st label) (Cursor.start (s.runEnd isInlineSpace j))
    else if let some (m, c) := listMarker? s indent c' then
      item (st.continueList m) (.item m.indent) c
    else if let (true, some (indent, c), some st) :=
        (o.definitionLists, definitionMarker? s indent c', st.continueDefinitions) then
      item st (.definition indent) c
    else if let some c := quoteMarker? s c' then
      openContainers o s fuel (st.closeList.openContainer .quote []) c
    else (st, .inl c)

/-- Reads the block that starts in the line at a place. -/
def readBlock (o : Extensions) (s : Source) (st : BlockState) (i : Nat) : BlockState × Nat :=
  let (n, c) := Container.countContinued s st.containers (Cursor.start i)
  match openContainers o s (s.stop + 1) (st.popTo n) c with
  | (st, .inr next) => (st, next)
  | (st, .inl c) =>
    match s.blankLine? c.place with
    | some next => (st.blankLine, next)
    | none      => readLeaf o s st c

def readBlocks (o : Extensions) (s : Source) : Nat → BlockState → Nat → BlockState
  | 0,        st, _ => st
  | fuel + 1, st, i =>
    if s.stop ≤ i then st
    else
      let (st, next) := readBlock o s st i
      readBlocks o s fuel st next

/-- The blocks of a document, and what it defines. -/
def readDocument (o : Extensions) (s : Source) : List Block × Definitions :=
  let st := (readBlocks o s (s.stop + 1) {} 0).popTo 0
  (st.blocks.reverse, st.definitions)

end Adventure.Markdown
