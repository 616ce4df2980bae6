import Adventure.Yaml.Scalar
import Adventure.Yaml.Tag

/-!
# Tokens of a YAML text

The tokens of a text up to the point where it stops being YAML. The block collections of a text are
not marked in it: one starts where a line is indented more than what surrounds it, and ends where a
line is indented less. Whether something is the key of a mapping shows only at the colon after it.
-/

namespace Adventure.Yaml

/-- Something that becomes a key if a colon follows it. -/
structure PossibleKey where
  /-- Nothing else may stand here. -/
  required : Bool
  /-- The number of the token with which it starts. -/
  token : Nat
  line : Nat
  column : Nat
  index : Nat

/-- How far a text has been read. -/
structure Lexer where
  cursor : Cursor
  /-- The tokens, the latest first. -/
  tokens : List Token := []
  /-- The columns of the open block collections, the innermost first. -/
  indents : List Nat := []
  key : Option PossibleKey := none
  /-- The possible keys around the open flow collections, the innermost first. -/
  outerKeys : List (Option PossibleKey) := []
  /-- A key may start here. -/
  keyAllowed : Bool := true

namespace Lexer

/-- A key is at most so many characters away from its colon. -/
def keyLimit : Nat := 1024

def inFlow (s : Lexer) : Bool :=
  !s.outerKeys.isEmpty

def push (s : Lexer) (t : Token) : Lexer :=
  { s with tokens := t :: s.tokens }

/-- Adds a token before the token number `n`. -/
def insert (s : Lexer) (n : Nat) (t : Token) : Lexer :=
  let later := s.tokens.length - n
  { s with tokens := s.tokens.take later ++ t :: s.tokens.drop later }

/-! ### Indentation -/

/-- Closes the block collections that are indented more than to a column, or all of them. -/
def unroll (column : Option Nat) (s : Lexer) : Lexer :=
  if s.inFlow then s
  else
    let closed := s.indents.takeWhile fun indent => column.all (· < indent)
    { s with
      indents := s.indents.drop closed.length
      tokens := List.replicate closed.length .blockEnd ++ s.tokens }

/-- Opens a block collection before the token number `n`, unless one is open at the column. -/
def roll (column n : Nat) (t : Token) (s : Lexer) : Lexer :=
  if s.inFlow || !s.indents.head?.all (· < column) then s
  else { s with indents := column :: s.indents }.insert n t

/-! ### Keys -/

/-- Gives up the possible key, if none is required. -/
def dropKey (s : Lexer) : Option Lexer :=
  if s.key.any PossibleKey.required then none else some { s with key := none }

/-- What starts here may be a key, if one is allowed. -/
def saveKey (s : Lexer) : Option Lexer :=
  if s.keyAllowed then
    let c := s.cursor
    let required := !s.inFlow && s.indents.head? == some c.column
    s.dropKey.map fun s =>
      { s with key := some ⟨required, s.tokens.length, c.line, c.column, c.index⟩ }
  else some s

/-- A key ends in the line in which it starts. -/
def isStale (c : Cursor) (k : PossibleKey) : Bool :=
  k.line < c.line || k.index + keyLimit < c.index

/-- Gives up the possible keys that a colon can no longer follow. -/
def dropStaleKeys (s : Lexer) : Option Lexer :=
  let stale (k : Option PossibleKey) : Bool := k.any (isStale s.cursor)
  let keys := s.key :: s.outerKeys
  if keys.any fun k => stale k && k.any PossibleKey.required then none
  else
    let fresh (k : Option PossibleKey) : Option PossibleKey := k.filter fun k => !isStale s.cursor k
    some { s with key := fresh s.key, outerKeys := s.outerKeys.map fresh }

/-! ### Between tokens -/

/-- The position of the next token. A new line may start a key. -/
def skipSpace : Nat → Lexer → Lexer
  | 0,        s => s
  | fuel + 1, s =>
    let c := if s.cursor.column == 0 && s.cursor.isAt '\ufeff' then s.cursor.next else s.cursor
    let c := c.skipWhile fun ch => ch == ' ' || (ch == '\t' && (s.inFlow || !s.keyAllowed))
    let c := c.skipComment
    if c.atBreak then
      skipSpace fuel { s with cursor := c.skipBreak, keyAllowed := s.keyAllowed || !s.inFlow }
    else { s with cursor := c }

/-! ### Tokens -/

def endStream (s : Lexer) : Option Lexer :=
  (s.unroll none).dropKey.map fun s => { s with keyAllowed := false }.push .streamEnd

def directive (s : Lexer) : Option Lexer := do
  let s ← (s.unroll none).dropKey
  let (token, cursor) ← takeDirective s.cursor
  return { s with cursor, keyAllowed := false }.push token

def documentMark (t : Token) (s : Lexer) : Option Lexer :=
  (s.unroll none).dropKey.map fun s =>
    { s with cursor := s.cursor.skip 3, keyAllowed := false }.push t

def openFlow (t : Token) (s : Lexer) : Option Lexer :=
  s.saveKey.map fun s =>
    { s with
      cursor := s.cursor.next, key := none, outerKeys := s.key :: s.outerKeys
      keyAllowed := true }.push t

def closeFlow (t : Token) (s : Lexer) : Option Lexer :=
  s.dropKey.map fun s =>
    { s with
      cursor := s.cursor.next, key := if s.inFlow then s.outerKeys.headD none else s.key
      outerKeys := s.outerKeys.tail, keyAllowed := false }.push t

def comma (s : Lexer) : Option Lexer :=
  s.dropKey.map fun s => { s with cursor := s.cursor.next, keyAllowed := true }.push .comma

/-- The start of an element of a block sequence. -/
def entry (s : Lexer) : Option Lexer := do
  if !s.inFlow && !s.keyAllowed then none
  let s ← (s.roll s.cursor.column s.tokens.length .blockSequenceStart).dropKey
  return { s with cursor := s.cursor.next, keyAllowed := true }.push .entry

def complexKey (s : Lexer) : Option Lexer := do
  if !s.inFlow && !s.keyAllowed then none
  let s ← (s.roll s.cursor.column s.tokens.length .blockMappingStart).dropKey
  return { s with cursor := s.cursor.next, keyAllowed := !s.inFlow }.push .key

/-- The colon before a value. What stands before it becomes a key. -/
def value (s : Lexer) : Option Lexer :=
  let finish (s : Lexer) : Lexer := { s with cursor := s.cursor.next }.push .value
  match s.key with
  | some k =>
    let s := (s.insert k.token .key).roll k.column k.token .blockMappingStart
    some (finish { s with key := none, keyAllowed := false })
  | none =>
    if !s.inFlow && !s.keyAllowed then none
    else
      let s := s.roll s.cursor.column s.tokens.length .blockMappingStart
      some (finish { s with keyAllowed := !s.inFlow })

/-- An anchor or the name of one. -/
def anchor (t : List Char → Token) (s : Lexer) : Option Lexer := do
  let s ← s.saveKey
  let (name, cursor) ← takeAnchor s.cursor.next
  return { s with cursor, keyAllowed := false }.push (t name)

def tag (s : Lexer) : Option Lexer := do
  let s ← s.saveKey
  let (name, cursor) ← takeTag s.inFlow s.cursor
  return { s with cursor, keyAllowed := false }.push (.tag name)

def block (folded : Bool) (s : Lexer) : Option Lexer := do
  let s ← s.dropKey
  let (text, cursor) ← takeBlock folded s.indents.head? s.cursor
  return { s with cursor, keyAllowed := true }.push (.scalar false text)

def quoted (style : QuoteStyle) (s : Lexer) : Option Lexer := do
  let s ← s.saveKey
  let (text, cursor) ← takeQuoted style s.cursor
  return { s with cursor, keyAllowed := false }.push (.scalar false text)

def plain (s : Lexer) : Option Lexer := do
  let s ← s.saveKey
  let scalar ← takePlain s.inFlow (s.indents.head?.elim 0 (· + 1)) s.cursor
  return { s with cursor := scalar.after, keyAllowed := scalar.broken }.push
    (.scalar true scalar.text)

/-- An indicator, which starts no plain scalar. -/
def isIndicator (c : Char) : Bool :=
  "-?:,[]\x7b\x7d#&*!|>'\"%@`".toList.contains c

def startsPlain (s : Lexer) : Bool :=
  match s.cursor.head? with
  | none    => false
  | some ch =>
    !(isBlank ch || isBreak ch || isIndicator ch) ||
      (ch == '-' && !(s.cursor.ahead? 1).any isBlank) ||
      (!s.inFlow && (ch == '?' || ch == ':') && !s.cursor.isSpaceAhead 1)

def readToken (ch : Char) (s : Lexer) : Option Lexer :=
  let c := s.cursor
  let spaceAfter := c.isSpaceAhead 1
  if c.column == 0 && ch == '%' then s.directive
  else if c.atMark '-' then s.documentMark .documentStart
  else if c.atMark '.' then s.documentMark .documentEnd
  else if ch == '[' then s.openFlow .flowSequenceStart
  else if ch == '\x7b' then s.openFlow .flowMappingStart
  else if ch == ']' then s.closeFlow .flowSequenceEnd
  else if ch == '\x7d' then s.closeFlow .flowMappingEnd
  else if ch == ',' then s.comma
  else if ch == '-' && spaceAfter then s.entry
  else if ch == '?' && (s.inFlow || spaceAfter) then s.complexKey
  else if ch == ':' && (s.inFlow || spaceAfter) then s.value
  else if ch == '*' then s.anchor .alias
  else if ch == '&' then s.anchor .anchor
  else if ch == '!' then s.tag
  else if ch == '|' && !s.inFlow then s.block false
  else if ch == '>' && !s.inFlow then s.block true
  else if ch == '\'' then s.quoted .single
  else if ch == '"' then s.quoted .double
  else if s.startsPlain then s.plain
  else none

/-- The next token and those that it implies. -/
def step (s : Lexer) : Option Lexer := do
  let s ← (s.skipSpace (s.cursor.rest.length + 1)).dropStaleKeys
  let s := s.unroll (some s.cursor.column)
  match s.cursor.head? with
  | none    => s.endStream
  | some ch => s.readToken ch

/-- The tokens that no colon can change any more, the latest first. A token at which a key may start
is not one of them, nor are those after it. -/
def settled (s : Lexer) : List Token :=
  let pending := (s.key :: s.outerKeys).reduceOption.filter fun k =>
    k.required || !isStale s.cursor k
  s.tokens.drop (s.tokens.length - pending.foldl (fun n k => min n k.token) s.tokens.length)

/-- The tokens from here on, the latest first. -/
def run : Nat → Lexer → List Token
  | 0,        s => s.settled
  | fuel + 1, s =>
    s.step.elim s.settled fun s =>
      if s.tokens.head? == some .streamEnd then s.tokens else run fuel s

end Lexer

/-- The tokens of a text, as far as it is YAML. The end of the text is a token of its own. -/
def tokens (text : List Char) : List Token :=
  if text.all isAllowed then (Lexer.run (text.length + 2) { cursor := ⟨text, 0, 0, 0⟩ }).reverse
  else []

end Adventure.Yaml
