import Adventure.Number.Radix
import Adventure.Yaml.Cursor

/-!
# Scalars

A scalar is plain, quoted or a block. Plain and quoted scalars go on over several lines: a single
line break between two parts counts as a blank, and of several the first one is dropped. A block
keeps its lines, or folds them likewise.
-/

namespace Adventure.Yaml

/-! ### Gaps -/

/-- Line breaks between two parts of a scalar, when lines are folded. -/
def foldBreaks (first more : List Char) : List Char :=
  if first == ['\n'] then (if more.isEmpty then [' '] else more) else first ++ more

/-- What stands between two parts of a scalar. -/
structure Gap where
  /-- The blanks, if there is no line break. -/
  blanks : List Char := []
  /-- There is a line break. -/
  broken : Bool := false
  first : List Char := []
  more : List Char := []

/-- What a gap counts as. -/
def Gap.text (g : Gap) : List Char :=
  if g.broken then foldBreaks g.first g.more else g.blanks

/-- Takes blanks and line breaks. After a line break no tab may stand left of a column. -/
def takeGap (column : Nat) : Nat → Gap → Cursor → Option (Gap × Cursor)
  | 0,        g, c => some (g, c)
  | fuel + 1, g, c =>
    match c.head? with
    | none    => some (g, c)
    | some ch =>
      if isBlank ch then
        if g.broken && ch == '\t' && c.column < column then none
        else takeGap column fuel (if g.broken then g else { g with blanks := g.blanks ++ [ch] }) c.next
      else if isBreak ch then
        let (text, c) := c.takeBreak
        takeGap column fuel
          (if g.broken then { g with more := g.more ++ text }
            else { g with blanks := [], broken := true, first := text }) c
      else some (g, c)

/-! ### Plain scalars -/

/-- A character that ends plain scalars in flow collections. -/
def isFlowIndicator (c : Char) : Bool :=
  c == ',' || c == '[' || c == ']' || c == '\x7b' || c == '\x7d'

/-- The characters of a plain scalar up to a space or an indicator. In a flow collection no colon may
stand right before an indicator. -/
def takePlainPart (inFlow : Bool) : List Char → Option (List Char)
  | [] => some []
  | ch :: rest =>
    let beforeSpace := rest.head?.all fun ch => isBlank ch || isBreak ch
    if isBlank ch || isBreak ch then some []
    else if inFlow && ch == ':' && rest.head?.any (fun ch => isFlowIndicator ch || ch == '?') then
      none
    else if (ch == ':' && beforeSpace) || (inFlow && isFlowIndicator ch) then some []
    else (takePlainPart inFlow rest).map (ch :: ·)

/-- A scalar that was read, the position after it, and whether that is in a new line. -/
structure PlainScalar where
  text : List Char
  broken : Bool
  after : Cursor

/-- Takes the parts of a plain scalar after `gap`. Outside flow collections every line has to be
indented at least to `column`. -/
def takePlainFrom (inFlow : Bool) (column : Nat) : Nat → List Char → Gap → Cursor →
    Option PlainScalar
  | 0,        text, gap, c => some ⟨text, gap.broken, c⟩
  | fuel + 1, text, gap, c =>
    if c.atDocumentMark || c.isAt '#' then some ⟨text, gap.broken, c⟩
    else
      match takePlainPart inFlow c.rest with
      | none      => none
      | some part =>
        let (text, broken) := if part.isEmpty then (text, gap.broken) else (text ++ gap.text ++ part, false)
        let c := c.skip part.length
        if !(c.atBlank || c.atBreak) then some ⟨text, broken, c⟩
        else
          match takeGap column (c.rest.length + 1) {} c with
          | none          => none
          | some (gap, c) =>
            if !inFlow && c.column < column then some ⟨text, gap.broken, c⟩
            else takePlainFrom inFlow column fuel text gap c

def takePlain (inFlow : Bool) (column : Nat) (c : Cursor) : Option PlainScalar :=
  takePlainFrom inFlow column (c.rest.length + 1) [] {} c

/-! ### Quoted scalars -/

def simpleEscape? : Char → Option Char
  | '0'  => some '\x00'
  | 'a'  => some '\x07'
  | 'b'  => some '\x08'
  | 't'  => some '\t'
  | '\t' => some '\t'
  | 'n'  => some '\n'
  | 'v'  => some '\x0b'
  | 'f'  => some '\x0c'
  | 'r'  => some '\r'
  | 'e'  => some '\x1b'
  | ' '  => some ' '
  | '"'  => some '"'
  | '/'  => some '/'
  | '\\' => some '\\'
  | 'N'  => some '\u0085'
  | '_'  => some '\u00a0'
  | 'L'  => some '\u2028'
  | 'P'  => some '\u2029'
  | _    => none

/-- How many hexadecimal digits follow the character after a backslash. -/
def escapeDigits? : Char → Option Nat
  | 'x' => some 2
  | 'u' => some 4
  | 'U' => some 8
  | _   => none

/-- The character of an escape sequence, after its backslash, and its length. -/
def takeEscape : List Char → Option (Char × Nat)
  | []      => none
  | c :: cs =>
    match simpleEscape? c with
    | some ch => some (ch, 1)
    | none    => do
      let digits ← escapeDigits? c
      if cs.length < digits then none
      let n ← Number.readDigitsIn 16 (cs.take digits)
      if n.isValidChar then return (Char.ofNat n, 1 + digits) else none

inductive QuoteStyle where
  | single | double
  deriving DecidableEq

def QuoteStyle.mark : QuoteStyle → Char
  | .single => '\''
  | .double => '"'

/-- Takes characters of a quoted scalar up to a space or the closing quote. An escaped line break ends
the part, too; then the result is `true`. -/
def takeQuotedPart (style : QuoteStyle) : Nat → Cursor → Option (List Char × Bool × Cursor)
  | 0,        c => some ([], false, c)
  | fuel + 1, c =>
    let keep (ch : Char) (n : Nat) : Option (List Char × Bool × Cursor) :=
      (takeQuotedPart style fuel (c.skip n)).map fun (text, r) => (ch :: text, r)
    match style, c.rest with
    | _, [] => some ([], false, c)
    | .single, '\'' :: '\'' :: _ => keep '\'' 2
    | .double, '\\' :: rest =>
      if rest.head?.any isBreak then some ([], true, c.next.skipBreak)
      else (takeEscape rest).bind fun (ch, n) => keep ch (n + 1)
    | _, ch :: _ =>
      if isBlank ch || isBreak ch || ch == style.mark then some ([], false, c) else keep ch 1

/-- Takes the parts of a quoted scalar. -/
def takeQuotedFrom (style : QuoteStyle) : Nat → List Char → Cursor → Option (List Char × Cursor)
  | 0,        _,    _ => none
  | fuel + 1, text, c =>
    if c.atDocumentMark || c.atEnd then none
    else do
      let (part, broken, c) ← takeQuotedPart style (c.rest.length + 1) c
      let text := text ++ part
      if c.isAt style.mark then return (text, c.next)
      let (gap, c) ← takeGap 0 (c.rest.length + 1) { broken } c
      takeQuotedFrom style fuel (text ++ gap.text) c

/-- Takes a quoted scalar, at its opening quote. -/
def takeQuoted (style : QuoteStyle) (c : Cursor) : Option (List Char × Cursor) :=
  takeQuotedFrom style (c.rest.length + 1) [] c.next

/-! ### Blocks -/

/-- What becomes of the line breaks at the end of a block. -/
inductive Chomping where
  /-- One stays. -/
  | clip
  /-- None stays. -/
  | strip
  /-- All stay. -/
  | keep
  deriving DecidableEq

/-- The marks behind the start of a block: what becomes of its end, and its indentation. -/
structure BlockHeader where
  chomping : Chomping := .clip
  /-- How much more than what surrounds it the block is indented. -/
  indent : Option Nat := none

/-- A sign of what becomes of the end of a block. -/
def chomping? : Char → Option Chomping
  | '+' => some .keep
  | '-' => some .strip
  | _   => none

/-- Takes the marks of a block, in either order. -/
def takeBlockHeader (c : Cursor) : Option (BlockHeader × Cursor) :=
  let digit? (c : Cursor) : Option (Option Nat × Cursor) :=
    match c.head? with
    | some ch =>
      if ch == '0' then none
      else if ch.isDigit then some (some (ch.toNat - '0'.toNat), c.next)
      else some (none, c)
    | none => some (none, c)
  match c.head?.bind chomping? with
  | some chomping => (digit? c.next).map fun (indent, c) => ({ chomping, indent }, c)
  | none => do
    let (indent, c) ← digit? c
    match indent, c.head?.bind chomping? with
    | some _, some chomping => return ({ chomping, indent }, c.next)
    | _, _ => return ({ indent }, c)

/-- Takes blanks and line breaks before a line of a block: the breaks, the column of the farthest
blank, and the position. No tab may stand left of the block. Without an indentation every blank
counts. -/
def takeBlockBreaks (indent : Option Nat) : Nat → Nat → List Char → Cursor →
    Option (List Char × Nat × Cursor)
  | 0,        farthest, breaks, c => some (breaks, farthest, c)
  | fuel + 1, farthest, breaks, c =>
    let isLeft (c : Cursor) : Bool := indent.all (c.column < ·)
    let blanks := (c.rest.takeWhile (· == ' ')).length
    let c := c.skip (match indent with
      | none        => blanks
      | some indent => min blanks (indent - c.column))
    let farthest := max farthest c.column
    if isLeft c && c.isAt '\t' then none
    else if !c.atBreak then some (breaks, farthest, c)
    else
      let (text, c) := c.takeBreak
      takeBlockBreaks indent fuel farthest (breaks ++ text) c

/-- Takes the lines of a block. `text` holds the lines before, `first` and `more` the breaks after
them; the last line before started with a blank if `blankBefore`. -/
def takeBlockLines (folded : Bool) (indent : Nat) : Nat → List Char → List Char → List Char → Bool →
    Cursor → Option (List Char × List Char × List Char × Cursor)
  | 0, text, first, more, _, c => some (text, first, more, c)
  | fuel + 1, text, first, more, blankBefore, c =>
    if c.column ≠ indent || c.atEnd then some (text, first, more, c)
    else do
      let startsBlank := c.atBlank
      let breaks :=
        if folded && first == ['\n'] && !blankBefore && !startsBlank then foldBreaks first more
        else first ++ more
      let (line, c) := c.takeWhile fun ch => !isBreak ch
      let (first, c) := c.takeBreak
      let (more, _, c) ← takeBlockBreaks (some indent) (c.rest.length + 1) 0 [] c
      takeBlockLines folded indent fuel (text ++ breaks ++ line) first more startsBlank c

/-- Takes a block, at its indicator, inside a collection that is indented to a column, if any. -/
def takeBlock (folded : Bool) (outer : Option Nat) (c : Cursor) : Option (List Char × Cursor) := do
  let (header, c) ← takeBlockHeader c.next
  let c := (c.skipWhile isBlank).skipComment
  if !c.atLineEnd then none
  let c := c.skipBreak
  let given := header.indent.map (outer.getD 0 + ·)
  let (more, farthest, c) ← takeBlockBreaks given (c.rest.length + 1) 0 [] c
  let indent := given.getD (max (max farthest (outer.elim 0 (· + 1))) 1)
  let (text, first, more, c) ← takeBlockLines folded indent (c.rest.length + 1) [] [] more false c
  match header.chomping with
  | .strip => return (text, c)
  | .clip  => return (text ++ first, c)
  | .keep  => return (text ++ first ++ more, c)

end Adventure.Yaml
