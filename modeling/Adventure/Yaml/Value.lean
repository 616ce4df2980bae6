import Adventure.Number.Shortest

/-!
# YAML values

What a YAML document means, without regard to how it is written.
-/

namespace Adventure.Yaml

open Number

inductive Value where
  | null
  | boolean (b : Bool)
  | integer (n : Int)
  | float (x : Binary64)
  | string (s : String)
  | sequence (elements : List Value)
  | mapping (entries : List (Value × Value))
  /-- A value with a tag of the author's own, which is kept without its exclamation mark. Only the
  mark alone is kept as it is. -/
  | tagged (tag : String) (value : Value)
  deriving Repr, Inhabited

/-- Two floating point numbers that make no difference as keys. -/
def sameFloat (x y : Binary64) : Bool :=
  match x, y with
  | .finite _ 0 _, .finite _ 0 _ => true
  | _, _ => x == y

mutual

/-- Two values that make no difference as keys. The order of the entries of a mapping does not
matter. -/
def Value.same : Value → Value → Bool
  | .null,        .null        => true
  | .boolean a,   .boolean b   => a == b
  | .integer a,   .integer b   => a == b
  | .float a,     .float b     => sameFloat a b
  | .string a,    .string b    => a == b
  | .sequence as, .sequence bs => sameElements as bs
  | .mapping as,  .mapping bs  => as.length == bs.length && entriesIn as bs
  | .tagged s a,  .tagged t b  => s == t && a.same b
  | _,            _            => false

def sameElements : List Value → List Value → Bool
  | [],      []      => true
  | a :: as, b :: bs => a.same b && sameElements as bs
  | _,       _       => false

/-- All entries of the first list occur in the second one. -/
def entriesIn : List (Value × Value) → List (Value × Value) → Bool
  | [],           _  => true
  | (k, v) :: as, bs => bs.any (fun (l, w) => k.same l && v.same w) && entriesIn as bs

end

namespace Value

def untag : Value → Value
  | .tagged _ v => v.untag
  | v           => v

/-- The entries of a mapping, tagged or not. -/
def entries? (v : Value) : Option (List (Value × Value)) :=
  match v.untag with
  | .mapping es => some es
  | _           => none

def lookup (key : String) : List (Value × Value) → Option Value
  | []           => none
  | (k, v) :: es =>
    match k with
    | .string s => if s = key then some v else lookup key es
    | _         => lookup key es

end Value

end Adventure.Yaml
