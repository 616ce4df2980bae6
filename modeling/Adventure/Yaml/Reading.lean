import Adventure.Mismatch
import Adventure.Yaml.Node
import Adventure.Yaml.Plain

/-!
# Reading YAML

The value of a text that holds one document. Aliases are replaced by what they stand for; nesting and
the number of replacements are limited.
-/

namespace Adventure.Yaml

/-- Why a text has no value of the expected shape. -/
inductive Fault where
  /-- The text is not YAML, a key occurs twice, or a limit on nesting or numbers is exceeded. -/
  | malformed
  | severalDocuments
  | tooManyAliases
  | mismatch (m : Mismatch)
  deriving DecidableEq, Repr

/-- The message about a fault. The one about a malformed text is left open. -/
def Fault.message? : Fault → Option String
  | .malformed => none
  | .severalDocuments =>
    some "deserializing from YAML containing more than one document is not supported"
  | .tooManyAliases => some "repetition limit exceeded"
  | .mismatch m => some m.message

/-! ### Anchors -/

namespace Node

mutual

/-- The nodes with anchors, in the order of the text. -/
def anchored : Node → List (Nat × Node)
  | .alias _        => []
  | .scalar p f t   => p.anchor.toList.map (·, .scalar p f t)
  | .sequence p ns  => p.anchor.toList.map (·, .sequence p ns) ++ anchoredElements ns
  | .mapping p es   => p.anchor.toList.map (·, .mapping p es) ++ anchoredEntries es

def anchoredElements : List Node → List (Nat × Node)
  | []      => []
  | n :: ns => n.anchored ++ anchoredElements ns

def anchoredEntries : List (Node × Node) → List (Nat × Node)
  | []           => []
  | (k, v) :: es => k.anchored ++ v.anchored ++ anchoredEntries es

end

mutual

/-- How many steps it takes to walk through a node: one for a leaf, two around a collection. -/
def steps : Node → Nat
  | .alias _       => 1
  | .scalar ..     => 1
  | .sequence _ ns => 2 + stepsOfElements ns
  | .mapping _ es  => 2 + stepsOfEntries es

def stepsOfElements : List Node → Nat
  | []      => 0
  | n :: ns => n.steps + stepsOfElements ns

def stepsOfEntries : List (Node × Node) → Nat
  | []           => 0
  | (k, v) :: es => k.steps + v.steps + stepsOfEntries es

end

end Node

/-! ### Scalars -/

/-- The start of the tags that YAML itself defines. -/
def coreTag (name : String) : List Char :=
  ("tag:yaml.org,2002:" ++ name).toList

/-- The value of a scalar. A tag of YAML itself asks for a type. -/
def scalarValue (tag : Option (List Char)) (plain : Bool) (text : String) : Option Value :=
  match tag with
  | none => if plain then plainValue text else some (.string text)
  | some tag =>
    if tag == coreTag "bool" then (readBoolean text).map .boolean
    else if tag == coreTag "int" then
      match classifyInteger text.toList with
      | .fits n => some (.integer n)
      | _       => none
    else if tag == coreTag "float" then (readFloat text).map .float
    else if tag == coreTag "null" then if isNullText text then some .null else none
    else some (.string text)

/-- A tag of the author's own, without its exclamation mark. Of a second mark the same is true. What
would be left of a tag that is nothing but marks keeps one of them. -/
def ownTag? : Option (List Char) → Option String
  | some ['!']                    => some "!"
  | some ['!', '!']               => some "!"
  | some ('!' :: '!' :: c :: cs)  => some (String.ofList (c :: cs))
  | some ('!' :: cs)              => some (String.ofList cs)
  | _                             => none

/-! ### Nodes -/

/-- A reader of values that counts the aliases that it replaces. -/
abbrev ValueReader := StateT Nat (Except Fault)

/-- The anchors of a document and how many aliases may be replaced in it. -/
structure Anchors where
  nodes : List (Nat × Node)
  limit : Nat

/-- The node that an alias stands for: the last one with its number. -/
def Anchors.follow (anchors : Anchors) : Node → ValueReader Node
  | .alias n => do
    let count ← get
    if anchors.limit < count + 1 then throw .tooManyAliases
    set (count + 1)
    match anchors.nodes.reverse.lookup n with
    | some node => return node
    | none      => throw .malformed
  | node => return node

/-- Adds entries to a mapping, in which no key occurs twice. -/
def addEntries (value : Node → ValueReader Value) :
    List (Value × Value) → List (Node × Node) → ValueReader (List (Value × Value))
  | done, []           => return done.reverse
  | done, (k, v) :: es => do
    let k ← value k
    if done.any fun e => e.1.same k then throw .malformed
    let v ← value v
    addEntries value ((k, v) :: done) es

/-- The value of a node, in which no more than `depth` collections are nested. -/
def Node.value (anchors : Anchors) : Nat → Node → ValueReader Value
  | 0, node => do
    match ← anchors.follow node with
    | .scalar p plain text => scalar p plain text
    | _ => throw .malformed
  | depth + 1, node => do
    match ← anchors.follow node with
    | .scalar p plain text => scalar p plain text
    | .sequence p ns => return wrap p (.sequence (← ns.mapM (Node.value anchors depth)))
    | .mapping p es => return wrap p (.mapping (← addEntries (Node.value anchors depth) [] es))
    | .alias _ => throw .malformed
where
  /-- A value with the tag of its node. -/
  wrap (p : Properties) (v : Value) : Value :=
    (ownTag? p.tag).elim v fun tag => .tagged tag v
  /-- The value of a scalar with the tag of its node. -/
  scalar (p : Properties) (plain : Bool) (text : List Char) : ValueReader Value :=
    let tag := if (ownTag? p.tag).isSome then none else p.tag
    match scalarValue tag plain (String.ofList text) with
    | some v => return wrap p v
    | none   => throw .malformed

namespace Value

/-- How deeply collections may be nested. -/
def depthLimit : Nat := 128

/-- How many aliases may be replaced for each step through a document. -/
def aliasesPerStep : Nat := 100

/-- The value of the node at the root of a document. -/
def ofRoot (root : Node) : Except Fault Value :=
  (root.value ⟨root.anchored, aliasesPerStep * root.steps⟩ depthLimit).run' 0

/-- The value of a text. A text without a document is null. -/
def ofText (text : List Char) : Except Fault Value :=
  match Document.ofText? text with
  | none                 => .error .malformed
  | some .missing        => .ok .null
  | some (.found root followed) => do
    let v ← ofRoot root
    if followed then .error .severalDocuments else .ok v

end Value

end Adventure.Yaml
