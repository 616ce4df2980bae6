/-!
# Writing JSON

A JSON value is written on one line, or with every element on a line of its own. Characters outside
ASCII stand for themselves.
-/

namespace Adventure.Json

/-- A JSON value. Its numbers are naturals. -/
inductive Value where
  | null
  | boolean (b : Bool)
  | number (n : Nat)
  | string (s : String)
  | array (elements : List Value)
  | object (entries : List (String × Value))
  deriving Repr, Inhabited

/-- How the elements of arrays and objects are set apart. -/
structure Layout where
  /-- What stands before an element at the given depth, and before the closing bracket. -/
  lineBreak : Nat → List Char
  colon : List Char

namespace Layout

/-- Everything on one line, without blanks. -/
def compact : Layout :=
  ⟨fun _ => [], [':']⟩

/-- One element a line, each depth indented by two more blanks. -/
def indented : Layout :=
  ⟨fun depth => '\n' :: List.replicate (2 * depth) ' ', [':', ' ']⟩

end Layout

def hexDigit (n : Nat) : Char :=
  Nat.digitChar n

/-- A character inside a string. -/
def escapeChar (c : Char) : List Char :=
  if c = '"' then ['\\', '"']
  else if c = '\\' then ['\\', '\\']
  else if c = '\n' then ['\\', 'n']
  else if c = '\r' then ['\\', 'r']
  else if c = '\t' then ['\\', 't']
  else if c = '\x08' then ['\\', 'b']
  else if c = '\x0c' then ['\\', 'f']
  else if c.toNat < 32 then ['\\', 'u', '0', '0', hexDigit (c.toNat / 16), hexDigit (c.toNat % 16)]
  else [c]

def quote (s : String) : List Char :=
  '"' :: s.toList.flatMap escapeChar ++ ['"']

mutual

/-- A value that stands at the given depth. -/
def Value.write (layout : Layout) (depth : Nat) : Value → List Char
  | .null          => "null".toList
  | .boolean true  => "true".toList
  | .boolean false => "false".toList
  | .number n      => (toString n).toList
  | .string s      => quote s
  | .array []      => ['[', ']']
  | .array (v :: vs) =>
    '[' :: layout.lineBreak (depth + 1) ++ v.write layout (depth + 1) ++
      writeElements layout (depth + 1) vs ++ layout.lineBreak depth ++ [']']
  | .object []     => ['\x7b', '\x7d']
  | .object ((key, v) :: es) =>
    '\x7b' :: layout.lineBreak (depth + 1) ++ quote key ++ layout.colon ++
      v.write layout (depth + 1) ++ writeEntries layout (depth + 1) es ++ layout.lineBreak depth ++
      ['\x7d']

def writeElements (layout : Layout) (depth : Nat) : List Value → List Char
  | []      => []
  | v :: vs => ',' :: layout.lineBreak depth ++ v.write layout depth ++ writeElements layout depth vs

def writeEntries (layout : Layout) (depth : Nat) : List (String × Value) → List Char
  | []             => []
  | (key, v) :: es =>
    ',' :: layout.lineBreak depth ++ quote key ++ layout.colon ++ v.write layout depth ++
      writeEntries layout depth es

end

/-- The text of a value in a layout. -/
def Value.text (layout : Layout) (v : Value) : String :=
  String.ofList (v.write layout 0)

end Adventure.Json
