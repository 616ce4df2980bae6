import Adventure.Json.Number
import Adventure.Number.Radix

/-!
# Reading JSON

A reading is what a text holds up to the point where it stops being JSON. Whoever walks through it
in the order of the text meets that point after everything before it, so that the first offence of
the text, be it one of form or one of content, can be told.
-/

namespace Adventure.Json

/-- What a text holds, as far as it is JSON. The elements of an array or object that is not closed
are followed by something else than its bracket. -/
inductive Reading where
  | null
  | boolean (b : Bool)
  | number (n : Numeral)
  /-- A string, or nothing where an escape names half of a pair of surrogates. -/
  | string (s : Option String)
  | array (elements : List Reading) (closed : Bool)
  | object (entries : List (Option String × Reading)) (closed : Bool)
  /-- No value stands here. -/
  | broken
  deriving Repr, Inhabited

namespace Reading

/-! ### Strings -/

def unescapeChar : Char → Option Char
  | '"'  => some '"'
  | '\\' => some '\\'
  | '/'  => some '/'
  | 'b'  => some '\x08'
  | 'f'  => some '\x0c'
  | 'n'  => some '\n'
  | 'r'  => some '\r'
  | 't'  => some '\t'
  | _    => none

/-- The code points of a string after its opening quote, and what follows the closing one. An escape
with four digits counts as a code point, also when it names half of a pair of surrogates. -/
def takeString : List Char → Option (List Nat × List Char)
  | [] => none
  | '"' :: cs => some ([], cs)
  | '\\' :: 'u' :: a :: b :: c :: d :: cs => do
    let n ← Number.readDigitsIn 16 [a, b, c, d]
    let (ns, rest) ← takeString cs
    return (n :: ns, rest)
  | '\\' :: c :: cs => do
    let c ← unescapeChar c
    let (ns, rest) ← takeString cs
    return (c.toNat :: ns, rest)
  | c :: cs =>
    if c = '\\' || c.toNat < 32 then none
    else do
      let (ns, rest) ← takeString cs
      return (c.toNat :: ns, rest)

/-- The first half of a pair of surrogates. -/
def isHighSurrogate (n : Nat) : Bool :=
  0xD800 ≤ n && n < 0xDC00

/-- The second half of a pair of surrogates. -/
def isLowSurrogate (n : Nat) : Bool :=
  0xDC00 ≤ n && n < 0xE000

/-- The text of code points; the halves of surrogates have to come in pairs. -/
def decodePairs : List Nat → Option (List Char)
  | [] => some []
  | [n] => if isHighSurrogate n || isLowSurrogate n then none else some [Char.ofNat n]
  | n :: m :: ns =>
    if isHighSurrogate n then
      if isLowSurrogate m then
        (decodePairs ns).map (Char.ofNat (0x10000 + (n - 0xD800) * 0x400 + (m - 0xDC00)) :: ·)
      else none
    else if isLowSurrogate n then none
    else (decodePairs (m :: ns)).map (Char.ofNat n :: ·)

/-- A string after its opening quote. -/
def string? (cs : List Char) : Option (Option String × List Char) :=
  (takeString cs).map fun (ns, rest) => ((decodePairs ns).map String.ofList, rest)

/-! ### Values -/

def isSpace (c : Char) : Bool :=
  c == ' ' || c == '\t' || c == '\n' || c == '\r'

def skipSpace (cs : List Char) : List Char :=
  cs.dropWhile isSpace

def dropWord (word : String) (cs : List Char) : Option (List Char) :=
  if word.toList.isPrefixOf cs then some (cs.drop word.length) else none

/-- A word with a meaning of its own. -/
def word (word : String) (value : Reading) (cs : List Char) : Reading × List Char :=
  match dropWord word cs with
  | some rest => (value, rest)
  | none      => (.broken, cs)

/-- A value that is neither an array nor an object. -/
def scalar (cs : List Char) : Reading × List Char :=
  match cs with
  | 'n' :: _ => word "null" .null cs
  | 't' :: _ => word "true" (.boolean true) cs
  | 'f' :: _ => word "false" (.boolean false) cs
  | '"' :: cs =>
    match string? cs with
    | some (s, rest) => (.string s, rest)
    | none           => (.broken, cs)
  | cs =>
    match Numeral.take cs with
    | some (n, rest) => (.number n, rest)
    | none           => (.broken, cs)

/-- Puts an element in front of those that were read after it. -/
def consElement (v : Reading) : List Reading × Bool × List Char → List Reading × Bool × List Char
  | (vs, closed, rest) => (v :: vs, closed, rest)

def consEntry (key : Option String) (v : Reading) :
    List (Option String × Reading) × Bool × List Char →
    List (Option String × Reading) × Bool × List Char
  | (es, closed, rest) => ((key, v) :: es, closed, rest)

mutual

/-- A value at the start of a text, and what follows it. -/
def readValue : Nat → List Char → Reading × List Char
  | 0,        cs => (.broken, cs)
  | fuel + 1, cs =>
    match skipSpace cs with
    | '[' :: cs =>
      match skipSpace cs with
      | ']' :: cs => (.array [] true, cs)
      | cs =>
        let (vs, closed, rest) := readElements fuel cs
        (.array vs closed, rest)
    | '\x7b' :: cs =>
      match skipSpace cs with
      | '\x7d' :: cs => (.object [] true, cs)
      | cs =>
        let (es, closed, rest) := readEntries fuel cs
        (.object es closed, rest)
    | cs => scalar cs

def readElements : Nat → List Char → List Reading × Bool × List Char
  | 0,        cs => ([], false, cs)
  | fuel + 1, cs =>
    match readValue fuel cs with
    | (.broken, rest) => ([.broken], false, rest)
    | (v, rest) =>
      match skipSpace rest with
      | ',' :: rest => consElement v (readElements fuel rest)
      | ']' :: rest => ([v], true, rest)
      | rest        => ([v], false, rest)

def readEntries : Nat → List Char → List (Option String × Reading) × Bool × List Char
  | 0,        cs => ([], false, cs)
  | fuel + 1, cs =>
    match skipSpace cs with
    | '"' :: cs =>
      match string? cs with
      | none             => ([], false, cs)
      | some (key, rest) =>
        match skipSpace rest with
        | ':' :: rest =>
          match readValue fuel rest with
          | (.broken, rest) => ([(key, .broken)], false, rest)
          | (v, rest) =>
            match skipSpace rest with
            | ',' :: rest    => consEntry key v (readEntries fuel rest)
            | '\x7d' :: rest => ([(key, v)], true, rest)
            | rest           => ([(key, v)], false, rest)
        | rest => ([(key, .broken)], false, rest)
    | cs => ([], false, cs)

end

/-- The value at the start of a text, and whether nothing but white space follows it. Every step of
the reader is paid for by a character of the text. -/
def ofText (cs : List Char) : Reading × Bool :=
  let (v, rest) := readValue (2 * cs.length + 2) cs
  (v, (skipSpace rest).isEmpty)

/-! ### Form -/

mutual

/-- The text is JSON to the end of the value. Strings and numbers need not have a value. -/
def isWhole : Reading → Bool
  | .array vs closed  => closed && areWhole vs
  | .object es closed => closed && areWholeEntries es
  | .broken           => false
  | _                 => true

def areWhole : List Reading → Bool
  | []      => true
  | v :: vs => v.isWhole && areWhole vs

def areWholeEntries : List (Option String × Reading) → Bool
  | []           => true
  | (_, v) :: es => v.isWhole && areWholeEntries es

end

end Reading

end Adventure.Json
