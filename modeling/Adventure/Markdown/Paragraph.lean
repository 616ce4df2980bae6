import Adventure.Markdown.Container

/-!
# Paragraphs and what starts like them

A line that starts no other block starts a paragraph. Definitions of links may stand before its text;
its first line may turn out to be the head of a table, and a line below it may make it a heading.
-/

namespace Adventure.Markdown

/-! ### Lines of a paragraph -/

structure ParagraphLines where
  /-- The tokens, the latest first. -/
  tokens : List Token
  /-- The place behind the lines. -/
  stop : Nat
  /-- The level of the heading as which the paragraph is underlined. -/
  underline : Option Nat := none
  /-- A backslash stands at the end of the last line. -/
  backslash : Option Token := none

namespace ParagraphLines

/-- The tokens of a paragraph, which keeps a backslash at its end. -/
def allTokens (p : ParagraphLines) : List Token :=
  match p.backslash with
  | some t => Token.addText p.tokens t.start (t.start + 1) false
  | none   => p.tokens

end ParagraphLines

/-- Reads a paragraph from a line on, after the tokens `ts`, the latest first. -/
def paragraphLines (site : Site) (s : Source) : Nat → List Token → LineTokens → ParagraphLines
  | 0,        ts, line => ⟨line.tokens ++ ts, line.stop, none, none⟩
  | fuel + 1, ts, line =>
    let ts := line.tokens ++ ts
    let (own, c) := site.enter s line.stop
    let (missing, c) := c.skip s 4
    let backslash := line.lineBreak.filter fun t => t.kind == .hardBreak true
    let ended : ParagraphLines := ⟨ts, line.stop, none, backslash⟩
    match if own && 0 < missing then underline? s c.place else none with
    | some (level, stop) => ⟨ts, stop, some level, backslash⟩
    | none =>
      if 0 < missing && site.interrupts s own c.place then ended
      else
        let c := c.skipAll s
        if c.atEnd s then ended
        else
          paragraphLines site s fuel (line.lineBreak.toList ++ ts)
            (readLine site.extensions s c.place)

/-! ### Headings -/

/-- The tokens before a place; the last of them becomes shorter if it reaches over it. A backslash
before a character at the place stays as text. Tokens are given and returned with the latest first. -/
def cutTokens (stop : Nat) (ts : List Token) : List Token :=
  match (ts.reverse.span (·.stop < stop)) with
  | (before, []) => before.reverse
  | (before, t :: _) =>
    if t.stop ≤ stop || t.start < stop then { t with stop } :: before.reverse
    else if t.kind == .text true then { t with start := stop - 1, stop } :: before.reverse
    else before.reverse

/-- The latest token ends at another place. -/
def moveEnd (stop : Nat) : List Token → List Token
  | []      => []
  | t :: ts => { t with stop } :: ts

/-- The heading that a paragraph becomes by a line below it. The text starts at `start`. -/
def underlinedHeading (site : Site) (s : Source) (start level : Nat) (p : ParagraphLines) : Block :=
  let finish (ts : List Token) : Passage :=
    ⟨({ p with tokens := ts }.allTokens).reverse, site.containers, p.stop, false⟩
  match p.tokens with
  | [] => .heading level {} (finish [])
  | last :: _ =>
    let trimmed (stop : Nat) : Nat :=
      if p.backslash.isSome then stop else s.runStart isInlineSpace start stop
    let found :=
      if site.extensions.headingAttributes then attributes? s start last.stop else none
    match found with
    | some (stop, attributes) =>
      let stop := trimmed stop
      .heading level attributes (finish (moveEnd stop (cutTokens stop p.tokens)))
    | none => .heading level {} (finish (moveEnd (trimmed last.stop) p.tokens))

/-- Reads a heading with leading number signs: the block, and the place behind it. -/
def readHeading (site : Site) (s : Source) (i level : Nat) : Block × Nat :=
  match s.lineEnd? (i + level) with
  | some next => (.heading level {} ⟨[], site.containers, next, false⟩, next)
  | none =>
    let start := s.runEnd isInlineSpace (i + level)
    let (line, textStop, attributes) : LineTokens × Nat × HeadingAttributes :=
      if site.extensions.headingAttributes then
        let stop := s.nextLine start
        let (textStop, attributes) := (attributes? s start stop).getD (stop, {})
        ({ readLine site.extensions (s.upTo textStop) start with stop }, textStop, attributes)
      else
        let line := readLine site.extensions s start
        (line, line.stop, {})
    let backslash :=
      if site.extensions.headingAttributes then none
      else line.lineBreak.filter fun t => t.kind == .hardBreak true
    let ts := (⟨line.tokens, line.stop, none, backslash⟩ : ParagraphLines).allTokens
    let stop := headingTextEnd s start textStop
    let ts :=
      match ts with
      | []      => []
      | t :: ts => if stop ≤ t.start then ts else { t with stop } :: ts
    (.heading level attributes ⟨ts.reverse, site.containers, line.stop, false⟩, line.stop)

/-! ### Definitions of links -/

/-- The place behind the white space between the parts of a definition, and the number of line ends in
it, of which there is one at most. -/
def definitionSpace? (site : Site) (s : Source) (i : Nat) : Option (Nat × Nat) :=
  let j := s.runEnd isInlineSpace i
  match s.lineEnd? j with
  | none => some (j, 0)
  | some next =>
    let (own, c) := site.enter s next
    let (missing, c) := c.skip s 4
    if 0 < missing && (site.interrupts s own c.place || (underline? s c.place).isSome) then none
    else
      let k := s.runEnd isInlineSpace c.place
      if (s.lineEnd? k).isSome then none else some (k, 1)

/-- The definition of a link at a place: the key of its label, the target, and the place behind it. -/
def linkDefinition? (site : Site) (s : Source) (i : Nat) :
    Option (List Char × Target × Nat) := do
  if !s.has i '[' then none
  let (j, label) ← label? s site.inTable (site.content? s) (i + 1)
  if !s.has j ':' then none
  let (start, _) ← definitionSpace? site s (j + 1)
  let (stop, raw) ← destination? s start
  if stop = start then none
  let key := labelKey label
  let destination := unescape site.inTable raw
  let untitled := some (key, { destination }, stop)
  match definitionSpace? site s stop with
  | none => untitled
  | some (titleStart, newlines) =>
    if titleStart = stop then none
    else
      let titled := (definitionTitle? s (site.content? s) titleStart).bind fun (stop, title) =>
        (s.blankLine? stop).map fun _ =>
          (key, { destination, title := unescape site.inTable title }, stop)
      if titled.isSome then titled else if newlines = 0 then none else untitled

/-- What definitions of links leave of a paragraph. -/
structure AfterDefinitions where
  links : List (List Char × Target)
  /-- The place where the text of the paragraph starts, or where the next block starts. -/
  place : Nat
  isText : Bool

/-- Reads the definitions of links at the start of a paragraph. -/
def linkDefinitions (site : Site) (s : Source) :
    Nat → List (List Char × Target) → Nat → AfterDefinitions
  | 0,        links, i => ⟨links, i, true⟩
  | fuel + 1, links, i =>
    match linkDefinition? site s i with
    | none => ⟨links, i, true⟩
    | some (key, target, stop) =>
      let links := links ++ [(key, target)]
      match s.blankLine? stop with
      | none => ⟨links, stop, false⟩
      | some next =>
        let (own, c) := site.enter s next
        let (missing, c) := c.skip s 4
        if 0 < missing && site.interrupts s own c.place then ⟨links, next, false⟩
        else linkDefinitions site s fuel links (c.skipAll s).place

/-! ### Tables -/

/-- The cells of a row from a place on, and the place behind the row. -/
def rowCells (site : Site) (s : Source) : Nat → Nat → List Passage × Nat
  | 0,        i => ([], i)
  | fuel + 1, i =>
    let i := if s.has i '|' then i + 1 else i
    let start := s.runEnd isInlineSpace i
    match s.lineEnd? start with
    | some next => ([], next)
    | none =>
      let line := readCell site.extensions s start
      let (cells, next) := rowCells site s fuel line.stop
      (⟨line.tokens.reverse, site.containers, line.stop, true⟩ :: cells, next)

/-- The rows of a table below its head, and the place behind them. -/
def tableRows (site : Site) (s : Source) : Nat → Nat → List (List Passage) × Nat
  | 0,        i => ([], i)
  | fuel + 1, i =>
    let (own, c) := site.enter s i
    let start := (c.skipAll s).place
    if !own || site.interruptsRow s own start then ([], i)
    else
      let (cells, next) := rowCells site s (s.stop + 1) start
      if cells.isEmpty then ([], i)
      else
        let (rows, stop) := tableRows site s fuel next
        (cells :: rows, stop)

/-- Reads a table whose head starts at a place, and whose rows start at another: the table, and the
place behind it. -/
def readTable (site : Site) (s : Source) (alignments : List Alignment) (i rows : Nat) :
    Table × Nat :=
  let site := { site with leaf := .table }
  let (head, _) := rowCells site s (s.stop + 1) i
  let (rows, stop) := tableRows site s (s.stop + 1) rows
  (⟨alignments, head, rows⟩, stop)

end Adventure.Markdown
