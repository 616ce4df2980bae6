import Adventure.Markdown.Entity
import Adventure.Markdown.Options
import Adventure.Text.Blank
import Adventure.Text.Punctuation

/-!
# Tokens of inline text

A line of inline text is cut into tokens: texts, line breaks, and the marks of emphasis, code, links
and HTML. What the marks mean is decided when the whole text is known. A token knows its place, since
code, links and HTML are read again as they are written.
-/

namespace Adventure.Markdown

open Text

inductive TokenKind where
  /-- The characters as they are written. A backslash may stand before them. -/
  | text (escaped : Bool)
  /-- Characters that stand for others. -/
  | given (cs : List Char)
  /-- A run of marks of emphasis. -/
  | run (mark : Char) (count : Nat) (opens closes : Bool)
  /-- A run of backticks, the first of which may follow a backslash. -/
  | backticks (count : Nat) (escaped : Bool)
  /-- An opening angle bracket. -/
  | angle
  /-- An opening square bracket, or one with an exclamation mark. -/
  | opening (isImage : Bool)
  /-- A closing square bracket. -/
  | closing
  /-- A quotation mark that may become a typographic one. -/
  | quotation (mark : Char) (opens closes : Bool)
  | softBreak
  /-- A line break by blanks or by a backslash. -/
  | hardBreak (escaped : Bool)
  deriving DecidableEq, Repr

/-- A token and the places between which it stands. -/
structure Token where
  kind : TokenKind
  start : Nat
  stop : Nat
  deriving DecidableEq, Repr

namespace Token

/-- The meaning of the token depends on others. -/
def isMark (t : Token) : Bool :=
  match t.kind with
  | .text _ | .given _ | .softBreak | .hardBreak _ => false
  | _ => true

/-- Adds a text to tokens with the latest first. A text that goes on becomes longer. -/
def addText (ts : List Token) (start stop : Nat) (escaped : Bool) : List Token :=
  if stop ≤ start then ts
  else match ts with
    | ⟨.text e, i, j⟩ :: ts =>
      if j = start then ⟨.text e, i, stop⟩ :: ts
      else ⟨.text escaped, start, stop⟩ :: ⟨.text e, i, j⟩ :: ts
    | _ => ⟨.text escaped, start, stop⟩ :: ts

end Token

/-! ### Marks of emphasis -/

/-- A mark before `after` and behind `before` can open. Nothing stands before the first character of
a line. -/
def canOpen (mark : Char) (count : Nat) (before after : Option Char) : Bool :=
  match after with
  | none => false
  | some a =>
    if isBlankChar a then false
    else match before with
      | none => true
      | some b =>
        if mark == '*' && !isPunct a then true
        else if mark == '~' && 1 < count then true
        else if mark == '~' && b == '~' && !isPunct a then true
        else isBlankChar b || (isPunct b && !(mark == '\'' && (b == ']' || b == ')')))

/-- A mark behind `before` and before `after` can close. -/
def canClose (mark : Char) (count : Nat) (before after : Option Char) : Bool :=
  match before with
  | none => false
  | some b =>
    if isBlankChar b then false
    else match after with
      | none => true
      | some a =>
        if (mark == '*' || (mark == '~' && 1 < count)) && !isPunct b then true
        else if mark == '~' && b == '~' then true
        else isBlankChar a || isPunct a

/-- Dashes for two or more hyphens: long ones as far as possible, and only of one kind if that can
be. -/
def dashes (count : Nat) : List Char :=
  let (long, short) :=
    match count % 6 with
    | 0 | 3 => (count / 3, 0)
    | 2 | 4 => (0, count / 2)
    | 1     => (count / 3 - 1, 2)
    | _     => (count / 3, 1)
  List.replicate long '—' ++ List.replicate short '–'

/-! ### Lines -/

/-- Where inline text stands: in a line of its own, or in a cell of a table. -/
structure LineContext where
  extensions : Extensions
  inCell : Bool
  /-- The place of the first character. -/
  start : Nat

/-- What a character of a line starts. -/
inductive Step where
  /-- Text that goes on at a place. -/
  | text (next : Nat)
  | token (t : Token)
  /-- The text before the character ends. A text with the character at another place follows, and
  reading goes on at `next`. -/
  | restart (place next : Nat) (escaped : Bool)

/-- The characters before and behind a run of `count` marks. -/
def neighbours (ctx : LineContext) (s : Source) (i count : Nat) : Option Char × Option Char :=
  let after := s.chars[i + count]?
  (if i = ctx.start then none else s.chars[i - 1]?,
    if ctx.inCell && after == some '|' then none else after)

def stepRun (ctx : LineContext) (s : Source) (i : Nat) (c : Char) : Step :=
  let count := s.count c i
  let (before, after) := neighbours ctx s i count
  let opens := canOpen c count before after
  let closes := canClose c count before after
  if (opens || closes) && (c != '~' || count ≤ 2) then
    .token ⟨.run c count opens closes, i, i + count⟩
  else .text (i + count)

def stepEscape (ctx : LineContext) (s : Source) (i : Nat) : Step :=
  match s.get? (i + 1) with
  | some c =>
    if !isAsciiPunct c then .text (i + 1)
    else if c = '`' then
      let count := s.count '`' (i + 1)
      .token ⟨.backticks count true, i + 1, i + 1 + count⟩
    else if ctx.inCell && c = '|' then .restart (i + 1) (i + 2) false
    else if ctx.inCell && s.startsWith i ['\\', '\\', '|'] then .restart (i + 2) (i + 3) true
    else .restart (i + 1) (i + 2) true
  | none => .text (i + 1)

/-- Reads what typographic forms may stand for. -/
def stepSmart (ctx : LineContext) (s : Source) (i : Nat) (c : Char) : Step :=
  if c = '.' && s.startsWith i ['.', '.', '.'] then .token ⟨.given ['…'], i, i + 3⟩
  else if c = '-' && s.has (i + 1) '-' then
    let count := s.count '-' i
    .token ⟨.given (dashes count), i, i + count⟩
  else if c = '\'' || c = '"' then
    let (before, after) := neighbours ctx s i 1
    .token ⟨.quotation c (canOpen c 1 before after) (canClose c 1 before after), i, i + 1⟩
  else .text (i + 1)

/-- Reads what a character starts. -/
def step (ctx : LineContext) (s : Source) (i : Nat) (c : Char) : Step :=
  if c = '\\' then stepEscape ctx s i
  else if c = '*' || c = '_' then stepRun ctx s i c
  else if c = '~' && (ctx.extensions.strikethrough || ctx.extensions.subscript) then stepRun ctx s i c
  else if c = '`' then
    let count := s.count '`' i
    .token ⟨.backticks count false, i, i + count⟩
  else if c = '<' && !s.has (i + 1) '\\' then .token ⟨.angle, i, i + 1⟩
  else if c = '!' && s.has (i + 1) '[' then .token ⟨.opening true, i, i + 2⟩
  else if c = '[' then .token ⟨.opening false, i, i + 1⟩
  else if c = ']' then .token ⟨.closing, i, i + 1⟩
  else if c = '&' then
    match reference? s (i + 1) with
    | some (j, value) => .token ⟨.given value, i, j⟩
    | none            => .text (i + 1)
  else if ctx.extensions.smartPunctuation then stepSmart ctx s i c
  else .text (i + 1)

structure LineTokens where
  /-- The tokens, the latest first. -/
  tokens : List Token
  /-- The place where the next line starts, or where the text ends. -/
  stop : Nat
  /-- The end of the line, if the line may go on in the next one. -/
  lineBreak : Option Token := none

structure LineReader where
  /-- The tokens, the latest first. -/
  tokens : List Token
  /-- The start of the text behind the tokens. -/
  textStart : Nat
  escaped : Bool := false

namespace LineReader

/-- The tokens with the text behind them up to a place. -/
def upTo (r : LineReader) (i : Nat) : List Token :=
  Token.addText r.tokens r.textStart i r.escaped

/-- Ends the text before a place. Blanks at its end do not count. -/
def finish (r : LineReader) (s : Source) (i : Nat) : LineTokens :=
  ⟨r.upTo (s.runStart isInlineSpace r.textStart i), i, none⟩

/-- Ends a line before a place. Two or more blanks at its end, or a backslash, break the line. -/
def breakLine (r : LineReader) (s : Source) (i next : Nat) : LineTokens :=
  let text := s.runStart isInlineSpace 0 i
  if (i - s.runStart (· == '\\') 0 i) % 2 = 1 && next < s.stop then
    ⟨r.upTo (i - 1), next, some ⟨.hardBreak true, i - 1, next⟩⟩
  else if 2 ≤ i - text then ⟨r.upTo text, next, some ⟨.hardBreak false, text, next⟩⟩
  else ⟨r.upTo text, next, some ⟨.softBreak, i, next⟩⟩

end LineReader

/-- Cuts a line into tokens from a place on. -/
def readLineFrom (ctx : LineContext) (s : Source) : Nat → LineReader → Nat → LineTokens
  | 0,        r, i => r.finish s i
  | fuel + 1, r, i =>
    match s.get? i with
    | none => r.finish s i
    | some c =>
      if isLineEnd c then
        match s.lineEnd? i with
        | some next => if ctx.inCell then r.finish s i else r.breakLine s i next
        | none      => r.finish s i
      else if ctx.inCell && s.isBar i then r.finish s i
      else match step ctx s i c with
        | .text next => readLineFrom ctx s fuel r next
        | .token t => readLineFrom ctx s fuel ⟨t :: r.upTo i, t.stop, false⟩ t.stop
        | .restart place next escaped =>
          readLineFrom ctx s fuel ⟨r.upTo i, place, escaped⟩ next

def readLine (extensions : Extensions) (s : Source) (i : Nat) : LineTokens :=
  readLineFrom ⟨extensions, false, i⟩ s (s.stop + 1 - i) ⟨[], i, false⟩ i

/-- Cuts the text of a cell that starts at a place into tokens. -/
def readCell (extensions : Extensions) (s : Source) (i : Nat) : LineTokens :=
  readLineFrom ⟨extensions, true, i⟩ s (s.stop + 1 - i) ⟨[], i, false⟩ i

end Adventure.Markdown
