import Adventure.Draft.Amount
import Adventure.Mismatch
import Adventure.Yaml.Reading

/-!
# Shapes of YAML values

Readers of values that have to be of a given shape. A record is a mapping with known keys; other keys
are skipped. A tag counts only where several shapes are possible.
-/

namespace Adventure.Yaml

open Number

/-- Reads a value of some shape. -/
abbrev Decoder (α : Type) := Value → Except Mismatch α

def Value.found : Value → Found
  | .null       => .unit
  | .boolean b  => .boolean b
  | .integer n  => .integer n
  | .float x    => .float x
  | .string s   => .string s
  | .sequence _ => .sequence
  | .mapping _  => .map
  | .tagged _ v => v.found

namespace Decoder

def string : Decoder String := fun v =>
  match v.untag with
  | .string s => .ok s
  | v         => .error (.wrongType v.found "a string")

def boolean : Decoder Bool := fun v =>
  match v.untag with
  | .boolean b => .ok b
  | v          => .error (.wrongType v.found "a boolean")

def optional {α : Type} (decode : Decoder α) : Decoder (Option α)
  | .null => .ok none
  | v     => some <$> decode v

end Decoder

mutual

/-- A tag stands before the value or inside it. -/
def Value.hasTag : Value → Bool
  | .tagged _ _  => true
  | .sequence vs => anyTag vs
  | .mapping es  => anyTagIn es
  | _            => false

def anyTag : List Value → Bool
  | []      => false
  | v :: vs => v.hasTag || anyTag vs

def anyTagIn : List (Value × Value) → Bool
  | []           => false
  | (k, v) :: es => k.hasTag || v.hasTag || anyTagIn es

end

/-- The mismatch of a value for which none of the shapes of the named kind fits. -/
def noAlternative (kind : String) (v : Value) : Mismatch :=
  if v.hasTag then .taggedAlternative else .noAlternative kind

namespace Decoder

/-- A name may be written as any scalar except null. An integer that does not fit into 64 bits with a
sign becomes a floating point number. -/
def name : Decoder String
  | .string s  => .ok s
  | .integer n => .ok (if fitsInt64 n then toString n else (Binary64.ofInt n).toPositional)
  | .float x   => .ok x.toPositional
  | .boolean b => .ok (toString b)
  | v          => .error (noAlternative "ScalarName" v)

/-- An amount is a number or a text. -/
def amount : Decoder Draft.Amount
  | .integer n => .ok (if fitsInt64 n then .integer n else .float (.ofInt n))
  | .float x   => .ok (.float x)
  | .string s  => .ok (.text s)
  | v          => .error (noAlternative "RawAmount" v)

def any : Decoder Value := .ok

end Decoder

/-! ### Records -/

/-- A field of a record: its name, and how its value is put into the record. -/
structure RecordField (α : Type) where
  name : String
  put : α → Decoder α

/-- A field whose value may be missing or null. -/
def RecordField.ofOptional {α β : Type} (name : String) (decode : Decoder β) (set : α → Option β → α) :
    RecordField α :=
  ⟨name, fun a v => set a <$> Decoder.optional decode v⟩

def fieldName (key : Value) : Except Mismatch String :=
  match key.untag with
  | .string s => .ok s
  | v         => .error (.wrongType v.found "field identifier")

/-- Puts entries into a record; `seen` holds the names of the fields that are set. -/
def putEntries {α : Type} (fields : List (RecordField α)) :
    List String → α → List (Value × Value) → Except Mismatch α
  | _,    a, []           => .ok a
  | seen, a, (k, v) :: es => do
    let key ← fieldName k
    match fields.find? fun f => f.name == key with
    | none   => putEntries fields seen a es
    | some f =>
      if seen.contains key then throw (.duplicateField key)
      let a ← f.put a v
      putEntries fields (key :: seen) a es

/-- Reads a record from the entries of a mapping. -/
def decodeRecord {α : Type} (fields : List (RecordField α)) (blank : α) (entries : List (Value × Value)) :
    Except Mismatch α :=
  putEntries fields [] blank entries

end Adventure.Yaml
