import Adventure.Yaml.Cursor
import Adventure.Yaml.Plain

/-!
# Writing YAML

The text of a value: collections are blocks with one element a line, empty ones are brackets. A
string is written without quotes where it reads back as a string.
-/

namespace Adventure.Yaml

/-! ### Styles of strings -/

/-- How a string is written. -/
inductive StringStyle where
  | plain | single | double
  /-- Line by line, below an indicator. -/
  | block
  deriving DecidableEq, Repr

/-- A string that would read as something else without quotes. -/
def looksOdd (s : String) : Bool :=
  hasLeadingZero s.toList ||
    match plainValue s with
    | some (.string _) => false
    | _                => true

/-- A character that needs no escape. -/
def isPrintable (c : Char) : Bool :=
  let n := c.toNat
  n == 0x0A || (0x20 ≤ n && n ≤ 0x7E) ||
    (0xA0 ≤ n && n != 0xFEFF && n != 0xFFFE && n != 0xFFFF)

/-- Each character with those before and after it. -/
def neighbours (cs : List Char) : List (Option Char × Char × Option Char) :=
  ((none :: cs.map some).zip (cs.zip ((cs.drop 1).map some ++ [none])))

/-- An indicator that needs quotes at the start of a string. -/
def isLeadingIndicator (c : Char) : Bool :=
  "#,[]\x7b\x7d&*!|>'\"%@`".toList.contains c

/-- A character that needs quotes where it stands. -/
def needsQuotes (before : Option Char) (c : Char) (after : Option Char) : Bool :=
  let isSpace (c : Option Char) : Bool := c.all fun c => c == ' ' || c == '\t' || isBreak c
  if before.isNone then
    isLeadingIndicator c || ((c == '?' || c == ':' || c == '-') && isSpace after)
  else (c == ':' && isSpace after) || (c == '#' && isSpace before)

/-- What the characters of a string rule out. -/
structure StringTraits where
  multiline : Bool
  plain : Bool
  single : Bool
  block : Bool

def StringTraits.of (s : String) : StringTraits :=
  let cs := s.toList
  let around := neighbours cs
  let isEdge (c : Option Char) : Bool := c.any fun c => c == ' ' || isBreak c
  let multiline := cs.any isBreak
  let marked := cs.take 3 == ['-', '-', '-'] || cs.take 3 == ['.', '.', '.']
  let indicated := marked || around.any fun (b, c, a) => needsQuotes b c a
  let edges := isEdge cs.head? || isEdge cs.getLast?
  let breakSpace := around.any fun (b, c, _) => c == ' ' && b.any isBreak
  let spaceBreak := around.any fun (b, c, _) => isBreak c && b == some ' '
  let special := !cs.all isPrintable
  { multiline
    plain := !(indicated || edges || breakSpace || spaceBreak || special || multiline)
    single := !(breakSpace || spaceBreak || special)
    block := !(cs.getLast? == some ' ' || spaceBreak || special) }

/-- The style of a string. The key of an entry stands on one line. -/
def styleOf (isKey : Bool) (s : String) : StringStyle :=
  let traits := StringTraits.of s
  let quotes : StringStyle := if traits.single then .single else .double
  if isKey && traits.multiline then .double
  else if s.toList.contains '\n' then
    if traits.block then .block else .double
  else if looksOdd s || !traits.plain then quotes
  else .plain

/-! ### Strings -/

/-- An upper case hexadecimal number with at least so many digits. -/
def hexText (digits n : Nat) : List Char :=
  let ds := (Nat.toDigits 16 n).map Char.toUpper
  List.replicate (digits - ds.length) '0' ++ ds

/-- A character between double quotes. -/
def escapeDouble (c : Char) : List Char :=
  match c with
  | '\x00'   => ['\\', '0']
  | '\x07'   => ['\\', 'a']
  | '\x08'   => ['\\', 'b']
  | '\t'     => ['\\', 't']
  | '\n'     => ['\\', 'n']
  | '\x0b'   => ['\\', 'v']
  | '\x0c'   => ['\\', 'f']
  | '\r'     => ['\\', 'r']
  | '\x1b'   => ['\\', 'e']
  | '"'      => ['\\', '"']
  | '\\'     => ['\\', '\\']
  | '\u0085' => ['\\', 'N']
  | '\u2028' => ['\\', 'L']
  | '\u2029' => ['\\', 'P']
  | c =>
    if isPrintable c then [c]
    else if c.toNat ≤ 0xFF then ['\\', 'x'] ++ hexText 2 c.toNat
    else if c.toNat ≤ 0xFFFF then ['\\', 'u'] ++ hexText 4 c.toNat
    else ['\\', 'U'] ++ hexText 8 c.toNat

/-- A text of several lines in which each line that is not empty is indented. The text goes on a
line of its own if `fresh` says so. -/
def indentLines (indent : Nat) : Bool → List Char → List Char
  | _,     []      => []
  | fresh, c :: cs =>
    (if fresh && !isBreak c then List.replicate indent ' ' else []) ++
      c :: indentLines indent (isBreak c) cs

/-- A string between single quotes. A quote in it is written twice, and the quote at its end is
indented if it starts a line. -/
def singleQuoted (indent : Nat) (cs : List Char) : List Char :=
  let text := cs.flatMap fun c => if c == '\'' then ['\'', '\''] else [c]
  '\'' :: indentLines indent false (text ++ ['\''])

/-- The hints behind the indicator of a block: blanks at its start, and what becomes of its end. -/
def blockHints (cs : List Char) : List Char :=
  let start := if cs.head?.any fun c => c == ' ' || isBreak c then ['2'] else []
  let finish :=
    match cs.reverse with
    | []          => ['-']
    | c :: before =>
      if !isBreak c then ['-']
      else if before.head?.all isBreak then ['+']
      else []
  start ++ finish

def blockText (indent : Nat) (cs : List Char) : List Char :=
  '|' :: blockHints cs ++ '\n' :: indentLines indent true cs

def stringText (isKey : Bool) (indent : Nat) (s : String) : List Char :=
  let cs := s.toList
  match styleOf isKey s with
  | .plain  => cs
  | .single => singleQuoted indent cs
  | .double => '"' :: cs.flatMap escapeDouble ++ ['"']
  | .block  => blockText indent cs

/-! ### Tags -/

/-- A character of a tag that stands for itself. -/
def isPlainTagChar (c : Char) : Bool :=
  c.isAlphanum || "-_;/?:@&=+$,.~*'()[]".toList.contains c

def escapeTagChar (c : Char) : List Char :=
  if isPlainTagChar c then [c]
  else (String.singleton c).toUTF8.toList.flatMap fun octet => '%' :: hexText 2 octet.toNat

/-- A tag without its exclamation mark. -/
def tagName (tag : String) : List Char :=
  match tag.toList with
  | '!' :: cs => cs
  | cs        => cs

/-- A tag. One that is nothing but an exclamation mark is written in full. -/
def tagText (tag : String) : List Char :=
  match tagName tag with
  | [] => "!<%21>".toList
  | cs => '!' :: cs.flatMap escapeTagChar

/-- How many octets a tag counts for in a key. -/
def tagSize (tag : String) : Nat :=
  match tagName tag with
  | [] => 1
  | cs => 1 + (String.ofList cs).utf8ByteSize

/-! ### Values -/

inductive Position where
  | root
  /-- After an indicator that starts a line. -/
  | element
  /-- After a key. -/
  | value
  deriving DecidableEq

/-- The indentation of a collection inside one that is indented by `indent`. A sequence is not
indented more than the entry that it is the value of. -/
def Position.inner (p : Position) (isSequence : Bool) (indent : Nat) : Nat :=
  match p with
  | .root    => 0
  | .element => indent + 2
  | .value   => if isSequence then indent else indent + 2

/-- What stands between a position and a value in the same line. -/
def Position.lead (p : Position) (tags : List Char) : List Char :=
  match p with
  | .root => tags ++ if tags.isEmpty then [] else [' ']
  | _     => ' ' :: tags ++ if tags.isEmpty then [] else [' ']

/-- What stands between a position and the first line of a collection. -/
def Position.opening (p : Position) (tags : List Char) (inner : Nat) : List Char :=
  let below := '\n' :: List.replicate inner ' '
  match p, tags with
  | .root,    []   => []
  | .element, []   => [' ']
  | .value,   []   => below
  | .root,    tags => tags ++ below
  | _,        tags => ' ' :: tags ++ below

/-- Lines one after the other. One that ends with a line break needs no other. -/
def joinLines (indent : Nat) : List (List Char) → List Char
  | []      => []
  | [l]     => l
  | l :: ls =>
    l ++ (if l.getLast?.any isBreak then [] else ['\n']) ++ List.replicate indent ' ' ++
      joinLines indent ls

/-- The text of a value that is no collection. -/
def Value.leaf? (isKey : Bool) (indent : Nat) : Value → Option (List Char)
  | .null       => some "null".toList
  | .boolean b  => some (toString b).toList
  | .integer n  => some (toString n).toList
  | .float x    => some x.toMarked.toList
  | .string s   => some (stringText isKey indent s)
  | .sequence [] => some ['[', ']']
  | .mapping [] => some ['\x7b', '\x7d']
  | _           => none

/-- The largest size of a key that stands before its colon. -/
def keyLimit : Nat := 128

/-- How many octets a value counts for in a key. Quotes and brackets do not count. -/
def Value.keySize : Value → Nat
  | .null       => 4
  | .boolean b  => (toString b).length
  | .integer n  => (toString n).length
  | .float x    => x.toMarked.length
  | .string s   => s.utf8ByteSize
  | .tagged t v => tagSize t + v.keySize
  | _           => 0

/-- A string of several lines, with a tag or without. -/
def Value.isMultiline : Value → Bool
  | .string s   => (StringTraits.of s).multiline
  | .tagged _ v => v.isMultiline
  | _           => false

/-- The text of a key on one line, if there is one. -/
def Value.keyText? : Value → Option (List Char)
  | .tagged t v => v.keyText?.map fun cs => tagText t ++ ' ' :: cs
  | v           => v.leaf? true 0

/-- The text of a key that stands on one line with its colon, if it can. -/
def Value.simpleKey? (v : Value) : Option (List Char) :=
  if v.isMultiline || keyLimit < v.keySize then none else v.keyText?

mutual

/-- The text of a value inside a collection that is indented by `indent`. -/
def Value.write (p : Position) (indent : Nat) (tags : List Char) : Value → List Char
  | .tagged tag v => v.write p indent (if tags.isEmpty then tagText tag else tags ++ ' ' :: tagText tag)
  | .sequence (v :: vs) =>
    let inner := p.inner true indent
    p.opening tags inner ++ joinLines inner (writeElements inner (v :: vs))
  | .mapping (e :: es) =>
    let inner := p.inner false indent
    p.opening tags inner ++ joinLines inner (writeEntries inner (e :: es))
  | v => p.lead tags ++ (v.leaf? false (indent + 2)).getD []

def writeElements (indent : Nat) : List Value → List (List Char)
  | []      => []
  | v :: vs => ('-' :: v.write .element indent []) :: writeElements indent vs

def writeEntries (indent : Nat) : List (Value × Value) → List (List Char)
  | []           => []
  | (k, v) :: es =>
    match k.simpleKey? with
    | some key => (key ++ ':' :: v.write .value indent []) :: writeEntries indent es
    | none     =>
      ('?' :: k.write .element indent []) :: (':' :: v.write .element indent []) ::
        writeEntries indent es

end

def Value.text (v : Value) : List Char :=
  v.write .root 0 []

end Adventure.Yaml
