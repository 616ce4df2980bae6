import Adventure.Markdown.Entity
import Adventure.Text.CaseFold
import Adventure.Text.Punctuation

/-!
# Destinations, titles and labels

The parts of links. A destination stands between angle brackets or is free of blanks, a title stands
between quotes or parentheses, and a label stands between square brackets. Readers return the place
behind what they have read.
-/

namespace Adventure.Markdown

open Text

/-- Resolves escapes and character references, and drops carriage returns. Inside a table a bar has
its backslashes already counted for the cells: two of them go with it. -/
def unescape (inTable : Bool) : List Char → List Char
  | [] => []
  | '\\' :: '\\' :: '|' :: cs =>
    if inTable then '|' :: unescape inTable cs else '\\' :: unescape inTable ('|' :: cs)
  | '\\' :: c :: cs =>
    if isAsciiPunct c then c :: unescape inTable cs else '\\' :: unescape inTable (c :: cs)
  | '&' :: cs =>
    match takeReference cs with
    | some (value, rest) =>
      if rest.length < cs.length then value ++ unescape inTable rest else '&' :: unescape inTable cs
    | none => '&' :: unescape inTable cs
  | c :: cs => if c = '\r' then unescape inTable cs else c :: unescape inTable cs
termination_by cs => cs.length
decreasing_by all_goals simp <;> omega

/-- A backslash before punctuation stands at a place. -/
def isEscape (s : Source) (i : Nat) : Bool :=
  s.has i '\\' && s.test (i + 1) isAsciiPunct

/-- Two backslashes before a bar stand at a place inside a table. -/
def isEscapedBar (s : Source) (inTable : Bool) (i : Nat) : Bool :=
  inTable && s.startsWith i ['\\', '\\', '|']

/-! ### Destinations -/

/-- The deepest nesting of parentheses in a destination. -/
def maxNesting : Nat := 32

/-- Where a destination between angle brackets ends, before the closing one. -/
def pointedEnd? (s : Source) : Nat → Nat → Option Nat
  | 0,        _ => none
  | fuel + 1, i =>
    (s.get? i).bind fun c =>
      if c == '>' then some i
      else if c == '<' || isLineEnd c then none
      else pointedEnd? s fuel (if isEscape s i then i + 2 else i + 1)

/-- Where a destination without blanks ends. Its parentheses are balanced. -/
def bareEnd? (s : Source) : Nat → Nat → Nat → Option Nat
  | 0,        _,       _ => none
  | fuel + 1, nesting, i =>
    let done := if nesting = 0 then some i else none
    match s.get? i with
    | none => done
    | some c =>
      if c.toNat ≤ 32 then done
      else if c = '(' then
        if nesting > maxNesting then none else bareEnd? s fuel (nesting + 1) (i + 1)
      else if c = ')' then
        if nesting = 0 then done else bareEnd? s fuel (nesting - 1) (i + 1)
      else bareEnd? s fuel nesting (if isEscape s i then i + 2 else i + 1)

def destination? (s : Source) (i : Nat) : Option (Nat × List Char) :=
  if s.has i '<' then
    (pointedEnd? s (s.stop + 1) (i + 1)).map fun j => (j + 1, s.slice (i + 1) j)
  else (bareEnd? s (s.stop + 1) 0 i).map fun j => (j, s.slice i j)

/-! ### Titles -/

/-- The mark that closes a title. -/
def titleCloser? : Char → Option Char
  | '"'  => some '"'
  | '\'' => some '\''
  | '('  => some ')'
  | _    => none

/-- Reads the title of a link up to its closing mark. Escapes and character references are resolved.
`resume?` tells where the text goes on after the end of a line. -/
def linkTitle (s : Source) (inTable : Bool) (resume? : Nat → Option Nat) (opener closer : Char) :
    Nat → Nat → Option (Nat × List Char)
  | 0,        _ => none
  | fuel + 1, i =>
    let more (cs : List Char) (j : Nat) : Option (Nat × List Char) :=
      (linkTitle s inTable resume? opener closer fuel j).map fun (k, title) => (k, cs ++ title)
    match s.get? i with
    | none => none
    | some c =>
      let resumed := if isLineEnd c then (resume? i).filter (i < ·) else none
      if c = closer then some (i + 1, [])
      else if c = opener then none
      else if let some j := resumed then more ['\n'] j
      else if isEscapedBar s inTable i then more ['|'] (i + 3)
      else if isEscape s i then more (s.slice (i + 1) (i + 2)) (i + 2)
      else match if c = '&' then reference? s (i + 1) else none with
        | some (j, value) => more value j
        | none            => more [c] (i + 1)

def linkTitle? (s : Source) (inTable : Bool) (resume? : Nat → Option Nat) (i : Nat) :
    Option (Nat × List Char) := do
  let opener ← s.get? i
  let closer ← titleCloser? opener
  linkTitle s inTable resume? opener closer (s.stop + 1) (i + 1)

/-- Reads the title in a definition up to its closing mark. Escapes and character references stay.
`content?` tells where the content of a line starts, if the title may go on in it. -/
def definitionTitle (s : Source) (content? : Nat → Option Nat) (opener closer : Char) :
    Nat → Nat → Option (Nat × List Char)
  | 0,        _ => none
  | fuel + 1, i =>
    let more (cs : List Char) (j : Nat) : Option (Nat × List Char) :=
      (definitionTitle s content? opener closer fuel j).map fun (k, title) => (k, cs ++ title)
    match s.get? i with
    | none => none
    | some c =>
      if c = closer then some (i + 1, [])
      else if c = opener then none
      else if isEscape s i then more (s.slice i (i + 2)) (i + 2)
      else if isLineEnd c then
        (s.lineEnd? i).bind fun next => (content? next).bind fun j =>
          more ['\n'] (s.runEnd isInlineSpace j)
      else more [c] (i + 1)

def definitionTitle? (s : Source) (content? : Nat → Option Nat) (i : Nat) :
    Option (Nat × List Char) := do
  let opener ← s.get? i
  let closer ← titleCloser? opener
  definitionTitle s content? opener closer (s.stop + 1) (i + 1)

/-! ### Labels -/

/-- Labels have fewer characters. -/
def maxLabelLength : Nat := 1000

def isLabelSpace (c : Char) : Bool :=
  c == ' ' || c == '\t' || c == '\n' || c == '\x0c' || c == '\r'

/-- Passes the white space inside a label, with no more than one end of a line in it. `content?`
tells where the content of a line starts, if the label may go on in it. -/
def labelSpaceEnd? (s : Source) (content? : Nat → Option Nat) (i : Nat) : Option Nat := do
  let j := s.runEnd isInlineSpace i
  if s.test j isLineEnd then
    let next ← s.lineEnd? j
    let start ← content? next
    let k := s.runEnd isInlineSpace start
    if s.test k isLineEnd then none else some k
  else some j

/-- Reads a label up to its closing bracket. There is no other bracket in it, and white space counts
as a single blank. -/
def labelFrom (s : Source) (inTable : Bool) (content? : Nat → Option Nat) :
    Nat → Nat → Option (Nat × List Char)
  | 0,        _ => none
  | fuel + 1, i =>
    let more (cs : List Char) (j : Nat) : Option (Nat × List Char) :=
      (labelFrom s inTable content? fuel j).map fun (k, label) => (k, cs ++ label)
    match s.get? i with
    | none => none
    | some c =>
      if c = '[' then none
      else if c = ']' then some (i + 1, [])
      else if isEscapedBar s inTable i then more [] (i + 2)
      else if inTable && s.startsWith i ['\\', '|'] then more ['|'] (i + 2)
      else if c = '\\' then more (s.slice i (i + 2)) (i + 2)
      else if isTagSpace c then
        (labelSpaceEnd? s content? i).bind fun j => more [' '] j
      else more [c] (i + 1)

/-- A label, after its opening bracket. It is not blank, and white space around it does not count. -/
def label? (s : Source) (inTable : Bool) (content? : Nat → Option Nat) (i : Nat) :
    Option (Nat × List Char) :=
  (labelFrom s inTable content? (maxLabelLength + 1) i).bind fun (j, label) =>
    if label.all isTagSpace || maxLabelLength ≤ j - 1 - i then none
    else
      let trimmed := ((label.dropWhile isLabelSpace).reverse.dropWhile isLabelSpace).reverse
      some (j, trimmed)

/-- Labels with the same key name the same thing. -/
def labelKey (label : List Char) : List Char :=
  foldCase label

/-- A label of a footnote starts with a caret. -/
inductive Label where
  | link (label : List Char)
  | footnote (label : List Char)
  deriving Repr

/-- A label of a link or of a footnote, after its opening bracket. The label of a footnote stands in
one line. -/
def anyLabel? (s : Source) (footnotes inTable : Bool) (content? : Nat → Option Nat) (i : Nat) :
    Option (Nat × Label) :=
  let footnote :=
    if footnotes && s.has i '^' && !s.has (i + 1) ']' then label? s inTable (fun _ => none) (i + 1)
    else none
  match footnote with
  | some (j, label) => some (j, .footnote label)
  | none            => (label? s inTable content? i).map fun (j, label) => (j, .link label)

end Adventure.Markdown
