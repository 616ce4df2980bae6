import Adventure.Number.Integer
import Adventure.Number.Radix
import Adventure.Yaml.Token
import Adventure.Yaml.Cursor

/-!
# Tags, anchors and directives

A tag says what kind of value a node is, an anchor names a node, and a directive at the start of a
document tells the version or what a handle of tags stands for.
-/

namespace Adventure.Yaml

/-! ### Anchors -/

/-- A character that may follow the name of an anchor. -/
def endsAnchor (c : Char) : Bool :=
  isBlank c || isBreak c || "?:,]\x7d%@`".toList.contains c

def takeAnchor (c : Cursor) : Option (List Char × Cursor) :=
  let (name, c) := c.takeWhile isWordChar
  if name.isEmpty || !c.head?.all endsAnchor then none else some (name, c)

/-! ### Tags -/

/-- A character of a tag, percent signs apart. A tag that is written in full may hold more of them. -/
def isTagChar (inFull : Bool) (c : Char) : Bool :=
  isWordChar c || ";/?:@&=+$.!~*'()".toList.contains c || (inFull && ",[]".toList.contains c)

/-- How many octets a character takes of which the first one is given. -/
def octetCount? (octet : Nat) : Option Nat :=
  if octet < 0x80 then some 1
  else if octet < 0xC0 then none
  else if octet < 0xE0 then some 2
  else if octet < 0xF0 then some 3
  else if octet < 0xF8 then some 4
  else none

/-- The first `n` octets, each written as a percent sign and two hexadecimal digits. -/
def takeOctets : Nat → List Char → Option (List Nat)
  | 0,     _ => some []
  | n + 1, '%' :: a :: b :: rest => do
    let octet ← Number.readDigitsIn 16 [a, b]
    return octet :: (← takeOctets n rest)
  | _, _ => none

def charOfOctets (octets : List Nat) : Option (List Char) :=
  (String.fromUTF8? ⟨(octets.map Nat.toUInt8).toArray⟩).map String.toList

def takeTagChars (inFull : Bool) : Nat → Cursor → Option (List Char × Cursor)
  | 0,        c => some ([], c)
  | fuel + 1, c =>
    match c.rest with
    | '%' :: _ => do
      let first ← takeOctets 1 c.rest
      let count ← octetCount? (first.headD 0)
      let chars ← charOfOctets (← takeOctets count c.rest)
      let (more, c) ← takeTagChars inFull fuel (c.skip (3 * count))
      return (chars ++ more, c)
    | ch :: _ =>
      if isTagChar inFull ch then
        (takeTagChars inFull fuel c.next).map fun (more, c) => (ch :: more, c)
      else some ([], c)
    | [] => some ([], c)

/-- Takes the characters of a tag, at least one of them. -/
def takeTagText (inFull : Bool) (c : Cursor) : Option (List Char × Cursor) :=
  (takeTagChars inFull (c.rest.length + 1) c).filter fun (text, _) => !text.isEmpty

/-- Takes a handle: a word between exclamation marks, of which the second one may be missing here. -/
def takeHandle (c : Cursor) : List Char × Cursor :=
  let (word, c) := c.next.takeWhile isWordChar
  if c.isAt '!' then ('!' :: word ++ ['!'], c.next) else ('!' :: word, c)

/-- A word between two exclamation marks. -/
def isFullHandle (handle : List Char) : Bool :=
  2 ≤ handle.length && handle.getLast? == some '!'

/-- Takes a tag, at its first exclamation mark, without looking at what follows it. -/
def takeTagName (c : Cursor) : Option (TagName × Cursor) :=
  if c.ahead? 1 == some '<' then do
    let (text, c) ← takeTagText true (c.skip 2)
    if c.isAt '>' then return (⟨[], text⟩, c.next) else none
  else
    let (handle, c) := takeHandle c
    if isFullHandle handle then
      (takeTagText false c).map fun (text, c) => (⟨handle, text⟩, c)
    else do
      let (text, c) ← takeTagChars false (c.rest.length + 1) c
      let text := handle.drop 1 ++ text
      if text.isEmpty then return (⟨[], ['!']⟩, c) else return (⟨['!'], text⟩, c)

/-- Takes a tag. A space has to follow it, or a comma in a flow collection. -/
def takeTag (inFlow : Bool) (c : Cursor) : Option (TagName × Cursor) :=
  (takeTagName c).filter fun (_, c) => c.isSpaceAhead 0 || (inFlow && c.isAt ',')

/-! ### Directives -/

/-- Takes a number of at most nine digits. -/
def takeVersionNumber (c : Cursor) : Option (Nat × Cursor) :=
  let (digits, c) := c.takeWhile Char.isDigit
  if digits.isEmpty || 9 < digits.length then none else some (Number.digitsValue digits, c)

/-- Takes a version: two numbers with a dot between them. -/
def takeVersion (c : Cursor) : Option (Token × Cursor) := do
  let (major, c) ← takeVersionNumber c
  if c.isAt '.' then
    (takeVersionNumber c.next).map fun (minor, c) => (.version major minor, c)
  else none

/-- Takes a handle and the start of a tag that it stands for. -/
def takeHandleStart (c : Cursor) : Option (Token × Cursor) :=
  if c.isAt '!' then
    let (handle, c) := takeHandle c
    if (handle == ['!'] || isFullHandle handle) && c.atBlank then
      ((takeTagText true (c.skipWhile isBlank)).filter fun (_, c) => c.isSpaceAhead 0).map
        fun (start, c) => (.handle handle start, c)
    else none
  else none

/-- Takes a directive up to what follows it in its line. -/
def takeDirectiveText (c : Cursor) : Option (Token × Cursor) :=
  let (name, c) := c.next.takeWhile isWordChar
  if !c.isSpaceAhead 0 then none
  else if name == "YAML".toList then takeVersion (c.skipWhile isBlank)
  else if name == "TAG".toList then takeHandleStart (c.skipWhile isBlank)
  else none

/-- Takes a directive. Only a comment may follow it in its line. -/
def takeDirective (c : Cursor) : Option (Token × Cursor) := do
  let (token, c) ← takeDirectiveText c
  let c := (c.skipWhile isBlank).skipComment
  if c.atLineEnd then return (token, c.skipBreak) else none

end Adventure.Yaml
