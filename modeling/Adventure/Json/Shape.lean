import Adventure.Json.Reading
import Adventure.Mismatch

/-!
# Shapes of JSON values

Readers of JSON values that have to be of a given shape. They look at the parts of a value in the
order of the text and stop at the first offence.

A record is an object with known fields, in any order; other fields are skipped. It may also be an
array of its fields in their order, in which optional fields may be missing at the end.
-/

namespace Adventure.Json

/-- Why a text has no value of the expected shape. -/
inductive Fault where
  /-- The text is not JSON. -/
  | malformed
  | mismatch (m : Mismatch)
  deriving DecidableEq, Repr

/-- Reads a value of some shape. -/
abbrev Decoder (α : Type) := Reading → Except Fault α

/-- What a value is, as far as it is one. -/
def Reading.found? : Reading → Option Found
  | .null                => some .null
  | .boolean b           => some (.boolean b)
  | .number (.integer n) => some (.integer n)
  | .number (.float x)   => some (.float x)
  | .number .tooLarge    => none
  | .string s            => s.map .string
  | .array _ _           => some .sequence
  | .object _ _          => some .map
  | .broken              => none

/-- The fault of a value of the wrong type. -/
def wrongType (expected : String) (v : Reading) : Fault :=
  v.found?.elim .malformed fun found => .mismatch (.wrongType found expected)

/-- The fault of a value of the right type that is out of range. -/
def wrongValue (expected : String) (v : Reading) : Fault :=
  v.found?.elim .malformed fun found => .mismatch (.wrongValue found expected)

def Decoder.string : Decoder String
  | .string (some s) => .ok s
  | v                => .error (wrongType "a string" v)

def Decoder.boolean : Decoder Bool
  | .boolean b => .ok b
  | v          => .error (wrongType "a boolean" v)

/-- A value or `null`. -/
def Decoder.optional {α : Type} (decode : Decoder α) : Decoder (Option α)
  | .null => .ok none
  | v     => some <$> decode v

/-- Holds only of a text that is JSON up to here. -/
def require (wellFormed : Bool) : Except Fault Unit :=
  if wellFormed then .ok () else .error .malformed

def Decoder.list {α : Type} (decode : Decoder α) : Decoder (List α)
  | .array vs closed => do
    let as ← vs.mapM decode
    require closed
    return as
  | v => .error (wrongType "a sequence" v)

/-- The key of an entry. -/
def decodeKey : Option String → Except Fault String
  | some key => .ok key
  | none     => .error .malformed

/-- A field of a record: its name, whether a record must have it, and how its value is put into the
record. -/
structure RecordField (α : Type) where
  name : String
  required : Bool
  put : α → Decoder α

/-- The shape of a record: its name, its fields in order, and the record in which no field is set. -/
structure Shape (α : Type) where
  name : String
  fields : List (RecordField α)
  blank : α

namespace Shape

variable {α : Type} (shape : Shape α)

def field? (key : String) : Option (RecordField α) :=
  shape.fields.find? fun f => f.name == key

/-- Puts the entries of an object into a record; `seen` holds the names of the fields that are set. -/
def putEntries : List String → α → List (Option String × Reading) →
    Except Fault (List String × α)
  | seen, a, []             => .ok (seen, a)
  | seen, a, (key, v) :: es => do
    let key ← decodeKey key
    match shape.field? key with
    | none =>
      require v.isWhole
      putEntries seen a es
    | some f =>
      if seen.contains f.name then throw (.mismatch (.duplicateField f.name))
      let a ← f.put a v
      putEntries (f.name :: seen) a es

/-- The first field that a record must have and that is not set. -/
def missing? (seen : List String) : Option (RecordField α) :=
  shape.fields.find? fun f => f.required && !seen.contains f.name

/-- Puts the elements of an array into the fields of a record, from the field number `index` on. -/
def putElements (closed : Bool) : Nat → α → List (RecordField α) → List Reading → Except Fault α
  | _, a, [], [] => do
    require closed
    return a
  | _, _, [], _ :: _ => .error .malformed
  | index, a, f :: fs, [] => do
    require closed
    if f.required then
      throw (.mismatch (.wrongLength index
        (shape.name ++ " with " ++ toString shape.fields.length ++ " elements")))
    putElements closed (index + 1) a fs []
  | index, a, f :: fs, v :: vs => do
    let a ← f.put a v
    putElements closed (index + 1) a fs vs

def decode : Decoder α
  | .object es closed => do
    let (seen, a) ← shape.putEntries [] shape.blank es
    require closed
    match shape.missing? seen with
    | some f => throw (.mismatch (.missingField f.name))
    | none   => return a
  | .array vs closed => shape.putElements closed 0 shape.blank shape.fields vs
  | v => .error (wrongType shape.name v)

end Shape

end Adventure.Json
