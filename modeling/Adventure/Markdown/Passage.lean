import Adventure.Markdown.Container
import Adventure.Markdown.Emphasis

/-!
# Reading inline text

The tokens of a passage are read from left to right. An opening bracket waits for its closing one,
which decides whether the two make a link, an image or a reference to a footnote. Code, links and HTML
are read as they are written and take the place of all tokens inside them.
-/

namespace Adventure.Markdown

/-- What a passage is read with: the text up to its end, and what it may refer to. -/
structure InlineContext where
  extensions : Extensions
  source : Source
  definitions : Definitions
  containers : List Container
  inTable : Bool

def InlineContext.contentStart (ctx : InlineContext) (i : Nat) : Nat :=
  Container.contentStart ctx.source ctx.containers i

/-- An open bracket, and the pieces before it, the latest first. -/
structure Bracket where
  isImage : Bool
  /-- The bracket as text. -/
  text : List Char
  /-- A link can still start here. There are no links within links. -/
  active : Bool
  before : List Piece
  /-- The place of the bracket. -/
  place : Nat

structure InlineState where
  /-- The pieces since the innermost open bracket, the latest first. -/
  pieces : List Piece := []
  /-- The open brackets, from the innermost on. -/
  brackets : List Bracket := []
  /-- The places of the closing brackets of labels that were tried as the second part of a reference.
  They are no references of their own. -/
  spent : List Nat := []

namespace InlineState

def push (st : InlineState) (p : Piece) : InlineState :=
  { st with pieces := p :: st.pieces }

/-- All open brackets become text. -/
def flatten (st : InlineState) : InlineState :=
  { st with
    pieces := st.brackets.foldl (fun ps b => ps ++ .text b.text :: b.before) st.pieces
    brackets := [] }

end InlineState

/-- The tokens behind a place. A token that reaches over it starts there. -/
def tokensFrom (i : Nat) (ts : List Token) : List Token :=
  match ts.dropWhile (·.stop ≤ i) with
  | []      => []
  | t :: ts => { t with start := max t.start i } :: ts

/-! ### Code -/

/-- The characters of a code span between two places. A line end becomes a blank, and in a table the
backslash before a bar goes away. -/
def codeChars (ctx : InlineContext) (stop : Nat) : Nat → Nat → List Char
  | 0,        _ => []
  | fuel + 1, i =>
    if stop ≤ i then []
    else match ctx.source.get? i with
      | none => []
      | some c =>
        if isLineEnd c then ' ' :: codeChars ctx stop fuel (ctx.contentStart (i + 1))
        else if ctx.inTable && ctx.source.startsWith i ['\\', '|'] then
          '|' :: codeChars ctx stop fuel (i + 2)
        else c :: codeChars ctx stop fuel (i + 1)

/-- The text of a code span between two places. A blank at both ends goes away. -/
def codeText (ctx : InlineContext) (i stop : Nat) : List Char :=
  let cs := codeChars ctx stop (stop - i) i
  if cs.head? == some ' ' && cs.getLast? == some ' ' && !cs.all (· == ' ') then
    (cs.drop 1).dropLast
  else cs

/-- The next run of as many backticks, and the tokens behind it. -/
def closingBackticks? (count : Nat) : List Token → Option (Token × List Token)
  | [] => none
  | t :: ts =>
    match t.kind with
    | .backticks n _ => if n = count then some (t, ts) else closingBackticks? count ts
    | _              => closingBackticks? count ts

/-- Reads a run of backticks: a code span if there is a closing run, text otherwise. -/
def readBackticks (ctx : InlineContext) (st : InlineState) (t : Token) (count : Nat)
    (escaped : Bool) (ts : List Token) : InlineState × List Token :=
  let n := if escaped then count - 1 else count
  match if n = 0 then none else closingBackticks? n ts with
  | some (close, ts) =>
    let st := if escaped then st.push (.text ['`']) else st
    (st.push (.known [.code (codeText ctx t.stop close.start)]), ts)
  | none => (st.push (.text (ctx.source.slice t.start t.stop)), ts)

/-! ### Angle brackets -/

/-- A link whose text is its destination. -/
def bareLink (target : Target) : Piece :=
  .known ((Tag.link target).around [.text target.destination])

/-- Reads an angle bracket: a link, HTML, or text. -/
def readAngle (ctx : InlineContext) (st : InlineState) (t : Token) (ts : List Token) :
    InlineState × List Token :=
  let s := ctx.source
  let text := Piece.text (s.slice t.start t.stop)
  match ts with
  | [] => (st.push text, ts)
  | next :: _ =>
    let i := next.start
    match uri? s i, email? s i, inlineHtml? s ctx.contentStart i with
    | some (j, uri), _, _ => (st.push (bareLink { destination := uri }), tokensFrom j ts)
    | _, some (j, address), _ =>
      (st.push (bareLink { destination := address, isEmail := true }), tokensFrom j ts)
    | _, _, some (j, html) => (st.push (.known [.html html]), tokensFrom j ts)
    | _, _, _ => (st.push text, ts)

/-! ### Square brackets -/

/-- Passes blanks, and no more than one line end, between the parts of a link. -/
def linkSpaceEnd (ctx : InlineContext) (i : Nat) : Nat :=
  let s := ctx.source
  let j := s.runEnd isInlineSpace i
  match s.lineEnd? j with
  | some next => s.runEnd isInlineSpace (ctx.contentStart next)
  | none      => j

/-- The place where a token starts that reaches over the end of a line. -/
def resume? (ts : List Token) (i : Nat) : Option Nat :=
  (ts.find? (i + 1 < ·.stop)).map (·.start)

/-- The destination and the title of a link between parentheses, and the place behind them. -/
def inlineTarget? (ctx : InlineContext) (ts : List Token) (i : Nat) : Option (Target × Nat) := do
  let s := ctx.source
  if !s.has i '(' then none
  let (j, raw) ← destination? s (linkSpaceEnd ctx (i + 1))
  let destination := unescape ctx.inTable raw
  let j := linkSpaceEnd ctx j
  let (j, title) :=
    match linkTitle? s ctx.inTable (resume? ts) j with
    | some (k, title) => (linkSpaceEnd ctx k, title)
    | none            => (j, [])
  if s.has j ')' then some ({ destination, title }, j + 1) else none

/-- What a closing bracket turned out to be. -/
inductive Closing where
  | target (target : Target) (rest : List Token)
  | footnote (label : List Char)
  /-- Nothing; a second label that was tried has its closing bracket at a place. -/
  | nothing (spent : Option Nat)

def InlineContext.lookup (ctx : InlineContext) (label : List Char) : Option Target :=
  ctx.definitions.links.lookup (labelKey label)

/-- The label whose opening bracket stands at a place. -/
def InlineContext.label? (ctx : InlineContext) (i : Nat) : Option (Nat × Label) :=
  if ctx.source.has i '[' then
    anyLabel? ctx.source ctx.extensions.footnotes ctx.inTable (some ∘ ctx.contentStart) (i + 1)
  else none

/-- What the label from an open bracket up to a closing one refers to. -/
def ownLabel (ctx : InlineContext) (b : Bracket) (stop : Nat) (rest : List Token) : Closing :=
  match { ctx with source := ctx.source.upTo stop }.label? b.place with
  | some (j, .link l) =>
    if j = stop then (ctx.lookup l).elim (.nothing none) (.target · rest) else .nothing none
  | some (j, .footnote l) =>
    if j = stop && ctx.definitions.footnotes.contains (labelKey l) then .footnote l else .nothing none
  | none => .nothing none

/-- What a closing bracket is, from its open bracket and the tokens after it. -/
def closing (ctx : InlineContext) (st : InlineState) (b : Bracket) (t : Token) (ts : List Token) :
    Closing :=
  match inlineTarget? ctx ts t.stop with
  | some (target, j) => .target target (tokensFrom j ts)
  | none =>
    let own (rest : List Token) : Closing :=
      if st.spent.contains t.start then .nothing none else ownLabel ctx b t.stop rest
    match ts with
    | [] => own ts
    | next :: _ =>
      if ctx.source.startsWith next.start ['[', ']'] then own (ts.drop 2)
      else match ctx.label? next.start with
        | some (j, .link l) =>
          match ts.dropWhile (·.stop < j) with
          | close :: rest =>
            (ctx.lookup l).elim (.nothing (some close.start)) (.target · rest)
          | [] => .nothing none
        | _ => own ts

def readClosing (ctx : InlineContext) (st : InlineState) (t : Token) (ts : List Token) :
    InlineState × List Token :=
  let text := Piece.text (ctx.source.slice t.start t.stop)
  match st.brackets with
  | [] => (st.push text, ts)
  | b :: outer =>
    let literal : InlineState :=
      { st with
        pieces := text :: st.pieces ++ .text b.text :: b.before
        brackets := outer }
    if !b.active then (literal, ts)
    else match closing ctx st b t ts with
      | .target target rest =>
        let ps := st.pieces.reverse
        let inside :=
          resolve ctx.extensions ctx.source (if ps.any Piece.isMark then resolveLastBreak ps else ps)
        let tag := if b.isImage then Tag.image target else Tag.link target
        -- Links do not nest: the brackets around a link become text, unless they are those of an
        -- image.
        let outer :=
          if b.isImage then outer
          else outer.map fun o => { o with active := o.active && o.isImage }
        ({ st with pieces := .known (tag.around inside) :: b.before, brackets := outer }, rest)
      | .footnote label =>
        let before := if b.isImage then .text ['!'] :: b.before else b.before
        let st := { st with pieces := .known [.footnoteReference label] :: before, brackets := outer }
        (st.flatten, ts)
      | .nothing spent => ({ literal with spent := spent.toList ++ st.spent }, ts)

/-! ### The reader -/

def readToken (ctx : InlineContext) (st : InlineState) (t : Token) (ts : List Token) :
    InlineState × List Token :=
  match t.kind with
  | .text _ => (st.push (.text (ctx.source.slice t.start t.stop)), ts)
  | .given cs => (st.push (.text cs), ts)
  | .run mark count opens closes => (st.push (.run ⟨mark, count, opens, closes, t.start, t.stop⟩), ts)
  | .backticks count escaped => readBackticks ctx st t count escaped ts
  | .angle => readAngle ctx st t ts
  | .opening isImage =>
    let b : Bracket := ⟨isImage, ctx.source.slice t.start t.stop, true, st.pieces, t.stop - 1⟩
    ({ st with pieces := [], brackets := b :: st.brackets }, ts)
  | .closing => readClosing ctx st t ts
  | .quotation mark opens closes => (st.push (.quote mark opens closes), ts)
  | .softBreak => (st.push (.known [.softBreak]), ts)
  | .hardBreak escaped => (st.push (if escaped then .escapedBreak else .known [.hardBreak]), ts)

def readTokens (ctx : InlineContext) : Nat → InlineState → List Token → InlineState
  | fuel + 1, st, t :: ts =>
    let (st, rest) := readToken ctx st t ts
    readTokens ctx fuel st rest
  | _, st, _ => st

/-- The events of a passage. Every step reads at least one token. -/
def Passage.events (extensions : Extensions) (s : Source) (definitions : Definitions) (p : Passage) :
    List Event :=
  let ctx : InlineContext := ⟨extensions, s.upTo p.stop, definitions, p.containers, p.inTable⟩
  let ps := (readTokens ctx p.tokens.length {} p.tokens).flatten.pieces.reverse
  resolve extensions ctx.source (if p.tokens.any Token.isMark then resolveLastBreak ps else ps)

end Adventure.Markdown
