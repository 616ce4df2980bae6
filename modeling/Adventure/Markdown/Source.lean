/-!
# Texts read by place

Markdown looks back as well as ahead, and a part of a text may be read up to a place in the middle of
it. So a text is kept whole, and its readers take and return places. A place is the number of the
characters before it.
-/

namespace Adventure.Markdown

def isInlineSpace (c : Char) : Bool :=
  c == ' ' || c == '\t' || c == '\x0b' || c == '\x0c'

/-- The blanks that count as columns at the start of a line. -/
def isMargin (c : Char) : Bool :=
  c == ' ' || c == '\t'

def isLineEnd (c : Char) : Bool :=
  c == '\n' || c == '\r'

/-- Blanks and line ends. -/
def isTagSpace (c : Char) : Bool :=
  isInlineSpace c || isLineEnd c

/-- A text that is read up to a place. -/
structure Source where
  chars : Array Char
  stop : Nat
  deriving Repr

namespace Source

/-- A text that is read to its end. -/
def ofList (cs : List Char) : Source :=
  ⟨cs.toArray, cs.length⟩

/-- The same text, read up to another place at most. -/
def upTo (s : Source) (stop : Nat) : Source :=
  { s with stop := min s.stop stop }

def get? (s : Source) (i : Nat) : Option Char :=
  if i < s.stop then s.chars[i]? else none

def has (s : Source) (i : Nat) (c : Char) : Bool :=
  s.get? i == some c

/-- A character that fulfils `p` stands at a place. -/
def test (s : Source) (i : Nat) (p : Char → Bool) : Bool :=
  (s.get? i).any p

def startsWith (s : Source) (i : Nat) : List Char → Bool
  | []      => true
  | c :: cs => s.has i c && s.startsWith (i + 1) cs

def slice (s : Source) (i j : Nat) : List Char :=
  (s.chars.extract i (min j s.stop)).toList

def runEnd (s : Source) (p : Char → Bool) (i : Nat) : Nat :=
  if i < s.stop then
    match s.chars[i]? with
    | some c => if p c then s.runEnd p (i + 1) else i
    | none   => i
  else i
termination_by s.stop - i

/-- Where a run of characters that fulfil `p` and end before a place starts, no earlier than `low`. -/
def runStart (s : Source) (p : Char → Bool) (low : Nat) : Nat → Nat
  | 0     => 0
  | i + 1 => if low ≤ i && s.test i p then s.runStart p low i else i + 1

/-- The number of times that `c` stands from a place on. -/
def count (s : Source) (c : Char) (i : Nat) : Nat :=
  s.runEnd (· == c) i - i

/-- A bar between cells stands at a place. A bar after a backslash is text. -/
def isBar (s : Source) (i : Nat) : Bool :=
  s.has i '|' && !(1 ≤ i && s.has (i - 1) '\\')

/-- The place behind the first `mark` from a place on. -/
def after? (s : Source) (mark : List Char) (i : Nat) : Option Nat :=
  if i < s.stop then
    if s.startsWith i mark then some (i + mark.length) else s.after? mark (i + 1)
  else none
termination_by s.stop - i

/-- The place behind the end of a line that stands at a place. A carriage return ends a line too,
alone or before a line feed. The end of the text ends the last line. -/
def lineEnd? (s : Source) (i : Nat) : Option Nat :=
  match s.get? i with
  | none      => some i
  | some '\n' => some (i + 1)
  | some '\r' => some (if s.has (i + 1) '\n' then i + 2 else i + 1)
  | some _    => none

/-- The place behind a line of which nothing but blanks is left. -/
def blankLine? (s : Source) (i : Nat) : Option Nat :=
  s.lineEnd? (s.runEnd isInlineSpace i)

/-- The place behind the next line feed. -/
def nextLine (s : Source) (i : Nat) : Nat :=
  let j := s.runEnd (· != '\n') i
  if j < s.stop then j + 1 else j

end Source

end Adventure.Markdown
