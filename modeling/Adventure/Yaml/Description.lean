import Adventure.Mismatch
import Adventure.Text.Blank
import Adventure.Yaml.Writing

/-!
# Describing YAML values

A value in a message stands on one line. It is shown as it is written, and in outline if it has no
written form.
-/

namespace Adventure.Yaml

/-! ### Values without a written form -/

/-- A key that would be taken for the tag of a value if it were the only one of a mapping: a tagged
value, or a mapping with one entry. -/
def Value.looksLikeTag : Value → Bool
  | .tagged _ _  => true
  | .mapping [_] => true
  | _            => false

mutual

/-- A value has a written form unless something in it would be taken for a second tag. The value
itself has a tag already if `tagged` says so. -/
def Value.isWritable (tagged : Bool) : Value → Bool
  | .sequence vs       => allWritable vs
  | .mapping [(k, v)]  => (tagged || !k.looksLikeTag) && k.isWritable false && v.isWritable false
  | .mapping es        => entriesWritable es
  | .tagged _ v        => !tagged && v.isWritable true
  | _                  => true

def allWritable : List Value → Bool
  | []      => true
  | v :: vs => v.isWritable false && allWritable vs

def entriesWritable : List (Value × Value) → Bool
  | []           => true
  | (k, v) :: es => k.isWritable false && v.isWritable false && entriesWritable es

end

/-! ### Outlines -/

/-- A key that stands for itself in an outline. -/
def Value.bareOutline? : Value → Option String
  | .boolean b => some (toString b)
  | .integer n => some (toString n)
  | .float x   => some x.toMarked
  | .string s  => some (quoteDebug s)
  | _          => none

mutual

/-- A value with the kind of each of its parts. -/
def Value.outline : Value → String
  | .null        => "Null"
  | .boolean b   => "Bool(" ++ toString b ++ ")"
  | .integer n   => "Number(" ++ toString n ++ ")"
  | .float x     => "Number(" ++ x.toMarked ++ ")"
  | .string s    => "String(" ++ quoteDebug s ++ ")"
  | .sequence vs => "Sequence [" ++ ", ".intercalate (outlineElements vs) ++ "]"
  | .mapping es  => "Mapping \x7b" ++ ", ".intercalate (outlineEntries es) ++ "\x7d"
  | .tagged t v  => "TaggedValue \x7b tag: !" ++ t ++ ", value: " ++ v.outline ++ " \x7d"

def outlineElements : List Value → List String
  | []      => []
  | v :: vs => v.outline :: outlineElements vs

def outlineEntries : List (Value × Value) → List String
  | []           => []
  | (k, v) :: es =>
    (k.bareOutline?.getD k.outline ++ ": " ++ v.outline) :: outlineEntries es

end

/-! ### Descriptions -/

/-- A value on one line, for a message. A string stands for itself. -/
def Value.describe : Value → String
  | .string s => s
  | v =>
    if v.isWritable false then
      String.ofList ((Text.trimEnd v.text).map fun c => if c = '\n' then ' ' else c)
    else v.outline

end Adventure.Yaml
