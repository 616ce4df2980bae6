import Adventure.Yaml.Lexer

/-!
# Nodes of a YAML document

The tree of nodes that the tokens of a document make up. A node may have an anchor, and an alias
stands for the node with its anchor.
-/

namespace Adventure.Yaml

/-- What may stand before a node. Anchors are numbered. -/
structure Properties where
  anchor : Option Nat := none
  /-- The tag in full. -/
  tag : Option (List Char) := none

inductive Node where
  | alias (anchor : Nat)
  | scalar (properties : Properties) (plain : Bool) (text : List Char)
  | sequence (properties : Properties) (elements : List Node)
  | mapping (properties : Properties) (entries : List (Node × Node))

/-- What a missing node stands for. -/
def Node.empty (properties : Properties) : Node :=
  .scalar properties true []

/-! ### Reading -/

/-- What is left of the tokens, with the anchors and handles that are known. -/
structure NodeState where
  tokens : List Token
  anchors : List (List Char × Nat) := []
  handles : List (List Char × List Char) := []

/-- A reader of nodes. It fails where the tokens make up none. -/
abbrev NodeReader := StateT NodeState Option

namespace NodeReader

def peek : NodeReader Token := fun s =>
  s.tokens.head?.map (·, s)

def advance : NodeReader Unit := fun s =>
  some ((), { s with tokens := s.tokens.tail })

def accept (t : Token) : NodeReader Bool := do
  if (← peek) == t then
    advance
    return true
  return false

def isAtAny (ts : List Token) : NodeReader Bool := do
  return ts.contains (← peek)

/-- Handles that every document knows. -/
def defaultHandles : List (List Char × List Char) :=
  [(['!'], ['!']), (['!', '!'], "tag:yaml.org,2002:".toList)]

/-- The number of a new anchor. An anchor that is defined again stands for the new node; its number
is then shared with the next new anchor. -/
def define (name : List Char) : NodeReader Nat := do
  let s ← get
  let n := s.anchors.length
  set { s with anchors := (name, n) :: s.anchors.filter fun a => a.1 ≠ name }
  return n

def find (name : List Char) : NodeReader Nat := do
  let s ← get
  StateT.lift (s.anchors.lookup name)

def expand (tag : TagName) : NodeReader (List Char) := do
  if tag.handle.isEmpty then return tag.rest
  let s ← get
  let start ← StateT.lift ((s.handles ++ defaultHandles).lookup tag.handle)
  return start ++ tag.rest

/-- An anchor and a tag, in either order. -/
def properties : NodeReader Properties := do
  match ← peek with
  | .anchor name =>
    advance
    match ← peek with
    | .tag tag =>
      advance
      let tag ← expand tag
      return { anchor := some (← define name), tag := some tag }
    | _ => return { anchor := some (← define name) }
  | .tag tag =>
    advance
    match ← peek with
    | .anchor name =>
      advance
      let tag ← expand tag
      return { anchor := some (← define name), tag := some tag }
    | _ => return { tag := some (← expand tag) }
  | _ => return {}

inductive Place where
  | flow
  | block
  /-- In a block mapping, where a sequence may stand without further indentation. -/
  | entry
  deriving DecidableEq

mutual

def node : Nat → Place → NodeReader Node
  | 0, _ => failure
  | fuel + 1, place => do
    if let .alias name ← peek then
      advance
      return .alias (← find name)
    let properties ← properties
    match ← peek with
    | .scalar plain text =>
      advance
      return .scalar properties plain text
    | .flowSequenceStart =>
      advance
      return .sequence properties (← flowElements fuel true)
    | .flowMappingStart =>
      advance
      return .mapping properties (← flowEntries fuel true)
    | t =>
      if t == .entry && place == .entry then
        return .sequence properties (← looseElements fuel)
      else if t == .blockSequenceStart && place != .flow then
        advance
        return .sequence properties (← blockElements fuel)
      else if t == .blockMappingStart && place != .flow then
        advance
        return .mapping properties (← blockEntries fuel)
      else if properties.anchor.isSome || properties.tag.isSome then return .empty properties
      else failure

/-- Reads a node, unless one of the given tokens shows that it is missing. -/
def nodeBefore : Nat → Place → List Token → NodeReader Node
  | 0, _, _ => failure
  | fuel + 1, place, ends => do
    if ← isAtAny ends then return .empty {}
    node fuel place

def blockElements : Nat → NodeReader (List Node)
  | 0 => failure
  | fuel + 1 => do
    if ← accept .blockEnd then return []
    if !(← accept .entry) then failure
    let element ← nodeBefore fuel .block [.entry, .blockEnd]
    return element :: (← blockElements fuel)

/-- Reads the elements of a sequence that is not indented more than the mapping around it. -/
def looseElements : Nat → NodeReader (List Node)
  | 0 => failure
  | fuel + 1 => do
    if !(← accept .entry) then return []
    let element ← nodeBefore fuel .block [.entry, .key, .value, .blockEnd]
    return element :: (← looseElements fuel)

def blockEntries : Nat → NodeReader (List (Node × Node))
  | 0 => failure
  | fuel + 1 => do
    if ← accept .blockEnd then return []
    if !(← accept .key) then failure
    let key ← nodeBefore fuel .entry [.key, .value, .blockEnd]
    let value ←
      if ← accept .value then nodeBefore fuel .entry [.key, .value, .blockEnd] else pure (.empty {})
    return (key, value) :: (← blockEntries fuel)

/-- Reads the elements of a flow sequence. A pair among them is a mapping with one entry. -/
def flowElements : Nat → Bool → NodeReader (List Node)
  | 0, _ => failure
  | fuel + 1, first => do
    if ← accept .flowSequenceEnd then return []
    if !first && !(← accept .comma) then failure
    if ← accept .flowSequenceEnd then return []
    let element ← if ← accept .key then flowPair fuel else node fuel .flow
    return element :: (← flowElements fuel false)

/-- Reads a pair in a flow sequence, after the mark of its key. -/
def flowPair : Nat → NodeReader Node
  | 0 => failure
  | fuel + 1 => do
    let key ←
      if ← isAtAny [.value, .comma, .flowSequenceEnd] then do
        advance
        pure (.empty {})
      else node fuel .flow
    let value ←
      if ← accept .value then nodeBefore fuel .flow [.comma, .flowSequenceEnd] else pure (.empty {})
    return .mapping {} [(key, value)]

def flowEntries : Nat → Bool → NodeReader (List (Node × Node))
  | 0, _ => failure
  | fuel + 1, first => do
    if ← accept .flowMappingEnd then return []
    if !first && !(← accept .comma) then failure
    if ← accept .flowMappingEnd then return []
    let entry ←
      if ← accept .key then do
        let key ← nodeBefore fuel .flow [.value, .comma, .flowMappingEnd]
        let value ←
          if ← accept .value then nodeBefore fuel .flow [.comma, .flowMappingEnd]
          else pure (.empty {})
        pure (key, value)
      else do
        let key ← node fuel .flow
        pure (key, .empty {})
    return entry :: (← flowEntries fuel false)

end

end NodeReader

/-! ### Documents -/

/-- The first document of a text. -/
inductive Document where
  /-- The text has none. -/
  | missing
  /-- The first document, and whether anything follows it. -/
  | found (root : Node) (followed : Bool)

namespace Document

open NodeReader

/-- Reads the directives of a document. Each may occur once, and the version has to be known. -/
def directives : Nat → Bool → NodeReader Unit
  | 0, _ => failure
  | fuel + 1, versioned => do
    match ← peek with
    | .version major minor =>
      if versioned || major != 1 || (minor != 1 && minor != 2) then failure
      advance
      directives fuel true
    | .handle name start =>
      let s ← get
      if (s.handles.lookup name).isSome then failure
      set { s with handles := (name, start) :: s.handles }
      advance
      directives fuel versioned
    | _ => return ()

def isDirective : Token → Bool
  | .version _ _ => true
  | .handle _ _  => true
  | _            => false

/-- Reads the root of a document. It has no directives unless it starts with its mark. -/
def root (fuel : Nat) : NodeReader Node := do
  let t ← peek
  if isDirective t || t == .documentStart then
    directives fuel false
    if !(← accept .documentStart) then failure
    if isDirective (← peek) then return .empty {}
    nodeBefore fuel .block [.documentStart, .documentEnd, .streamEnd]
  else node fuel .block

/-- Reads the end of a document. Says whether anything follows. -/
def isFollowed : NodeReader Bool := do
  let ended ← accept .documentEnd
  let { tokens, .. } ← get
  let rest := if ended then tokens.dropWhile (· == .documentEnd) else tokens
  if !ended && tokens.isEmpty then failure
  return rest.head? != some .streamEnd

def first (fuel : Nat) : NodeReader Document := do
  if (← peek) == .streamEnd then return .missing
  let root ← root fuel
  return .found root (← isFollowed)

/-- The first document of a text, if the text is YAML up to its end. -/
def ofText? (text : List Char) : Option Document :=
  let tokens := tokens text
  ((first (4 * tokens.length + 4)).run { tokens }).map Prod.fst

end Document

end Adventure.Yaml
