import Adventure.Toml.Scalar

/-!
# Reading TOML

A TOML document is read line by line: a line holds an entry of the current table, the header of the
next one, or nothing but a comment.
-/

namespace Adventure.Toml

/-! ### Space -/

def dropSpace (cs : List Char) : List Char :=
  cs.dropWhile fun c => c == ' ' || c == '\t'

/-- What follows a comment, if there is one. -/
def dropComment : List Char → List Char
  | '#' :: cs => cs.dropWhile isTextChar
  | cs        => cs

def takeLineEnd (cs : List Char) : Option (List Char) :=
  match dropComment (dropSpace cs) with
  | []                 => some []
  | '\n' :: cs         => some cs
  | '\r' :: '\n' :: cs => some cs
  | _                  => none

/-- Without blanks, comments and line breaks at the start. -/
def dropLines : Nat → List Char → List Char
  | 0,        cs => cs
  | fuel + 1, cs =>
    match dropSpace cs with
    | []                 => []
    | '\n' :: cs         => dropLines fuel cs
    | '\r' :: '\n' :: cs => dropLines fuel cs
    | '#' :: cs          => dropLines fuel (dropComment ('#' :: cs))
    | cs                 => cs

def dropBlankLines (cs : List Char) : List Char :=
  dropLines (cs.length + 1) cs

/-! ### Keys -/

/-- A character of a key without quotes. -/
def isKeyChar (c : Char) : Bool :=
  c.isAlphanum || c == '_' || c == '-'

def takeSimpleKey (cs : List Char) : Option (String × List Char) :=
  match cs with
  | '"' :: _ | '\'' :: _ => (takeQuoted cs).map fun (key, rest) => (String.ofList key, rest)
  | _ =>
    let key := cs.takeWhile isKeyChar
    if key.isEmpty then none else some (String.ofList key, cs.drop key.length)

/-- How deeply tables and arrays may be nested. -/
def depthLimit : Nat := 80

/-- Takes keys with dots between them; blanks around them do not matter. -/
def takeKeys : Nat → List Char → Option (List String × List Char)
  | 0,        _  => none
  | fuel + 1, cs => do
    let (key, cs) ← takeSimpleKey (dropSpace cs)
    match dropSpace cs with
    | '.' :: cs => do
      let (keys, rest) ← takeKeys fuel cs
      return (key :: keys, rest)
    | cs => return ([key], cs)

/-- Takes a path of keys: all but the last one, and the last one. -/
def takePath (cs : List Char) : Option (List String × String × List Char) := do
  let (keys, rest) ← takeKeys (cs.length + 1) cs
  if depthLimit ≤ keys.length then none
  return (keys.dropLast, keys.getLastD "", rest)

/-! ### Values -/

mutual

/-- Takes a value, inside of `depth` arrays and inline tables. -/
def takeValue : Nat → Nat → List Char → Option (Value × List Char)
  | 0, _, _ => none
  | fuel + 1, depth, cs =>
    match cs with
    | '[' :: cs => do
      if depthLimit ≤ depth + 1 then none
      let (vs, rest) ← takeElements fuel (depth + 1) cs
      return (.array vs, rest)
    | '\x7b' :: cs => do
      if depthLimit ≤ depth + 1 then none
      let (t, rest) ← takeEntries fuel (depth + 1) {} true cs
      return (.table .inline t.entries, rest)
    | '"' :: _ | '\'' :: _ =>
      (takeAnyString cs).map fun (text, rest) => (.string (String.ofList text), rest)
    | cs => takeWord cs

/-- Takes the elements of an array up to its closing bracket. A comma may follow the last one. -/
def takeElements : Nat → Nat → List Char → Option (List Value × List Char)
  | 0, _, _ => none
  | fuel + 1, depth, cs =>
    match dropBlankLines cs with
    | ']' :: rest => some ([], rest)
    | cs => do
      let (v, cs) ← takeValue fuel depth cs
      match dropBlankLines cs with
      | ',' :: cs => do
        let (vs, rest) ← takeElements fuel depth cs
        return (v :: vs, rest)
      | ']' :: rest => return ([v], rest)
      | _ => none

/-- Takes the entries of an inline table up to its closing brace, all on one line. -/
def takeEntries : Nat → Nat → Table → Bool → List Char → Option (Table × List Char)
  | 0, _, _, _, _ => none
  | fuel + 1, depth, t, first, cs =>
    match dropSpace cs, first with
    | '\x7d' :: rest, true => some (t, rest)
    | cs, _ => do
      let (path, key, cs) ← takePath cs
      let '=' :: cs := cs | none
      let (v, cs) ← takeValue fuel depth (dropSpace cs)
      let t ← t.define path key v
      match dropSpace cs with
      | ',' :: cs      => takeEntries fuel depth t false cs
      | '\x7d' :: rest => return (t, rest)
      | _              => none

end

/-! ### Documents -/

/-- A document that is being read. -/
structure DocumentState where
  root : Table := {}
  /-- The path to the current table. -/
  current : List String := []

/-- Takes the keys of a header up to its closing brackets and the end of the line. -/
def takeHeader (close : List Char) (cs : List Char) :
    Option (List String × String × List Char) := do
  let (path, key, cs) ← takePath cs
  if cs.take close.length ≠ close then none
  let rest ← takeLineEnd (cs.drop close.length)
  return (path, key, rest)

def readLine (s : DocumentState) (cs : List Char) : Option (DocumentState × List Char) :=
  match cs with
  | '[' :: '[' :: cs => do
    let (path, key, rest) ← takeHeader [']', ']'] cs
    return (⟨← s.root.openElement path key, path ++ [key]⟩, rest)
  | '[' :: cs => do
    let (path, key, rest) ← takeHeader [']'] cs
    return (⟨← s.root.openTable path key, path ++ [key]⟩, rest)
  | cs => do
    let (path, key, cs) ← takePath cs
    let '=' :: cs := cs | none
    let (v, cs) ← takeValue (cs.length + 1) 0 (dropSpace cs)
    let rest ← takeLineEnd cs
    let root ← s.root.modifyAt .outer (Table.define path key v) s.current
    return (⟨root, s.current⟩, rest)

def readLines : Nat → DocumentState → List Char → Option Table
  | 0,        _, _  => none
  | fuel + 1, s, cs =>
    match dropBlankLines cs with
    | [] => some s.root
    | cs => (readLine s cs).bind fun (s, rest) => readLines fuel s rest

/-- The entries of the document that a text holds. A byte order mark may stand before it. -/
def ofText? (text : List Char) : Option Entries :=
  let text :=
    match text with
    | '\ufeff' :: cs => cs
    | cs             => cs
  (readLines (text.length + 1) {} text).map Table.entries

end Adventure.Toml
