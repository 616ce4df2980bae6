import Adventure.Action.Token

/-!
# Calls

The parsed form of an action: which property of which room or item is changed, and how.
-/

namespace Adventure.Action

/-- The value that an action assigns or adds. -/
inductive Value where
  | integer (n : Int)
  /-- A string literal with its quotes. -/
  | text (literal : List Char)
  deriving DecidableEq, Repr, Inhabited

/-- A value as it stands in a statement. -/
def Value.render : Value → List Char
  | .integer n => (toString n).toList
  | .text l    => l

/-- What an action does with a property. -/
inductive Operation where
  | set (value : Value)
  | add (value : Value)
  | sub (n : Int)
  | mul (n : Int)
  | div (n : Int) (ne_zero : n ≠ 0)
  deriving DecidableEq, Repr

namespace Operation

def keyword : Operation → Keyword
  | .set _   => .set
  | .add _   => .add
  | .sub _   => .sub
  | .mul _   => .mul
  | .div _ _ => .div

/-- The right-hand side of the operation. -/
def value : Operation → Value
  | .set v | .add v              => v
  | .sub n | .mul n | .div n _   => .integer n

end Operation

/-- The assignment operator of a statement. -/
def Keyword.operator : Keyword → String
  | .set => "="
  | .add => "+="
  | .sub => "-="
  | .mul => "*="
  | .div => "/="

/-- An action: an operation on the property `key` of the room or item `element`. Names that were
written as string literals keep their quotes. -/
structure Call where
  key : List Char
  element : List Char
  operation : Operation
  deriving DecidableEq, Repr

/-- A call as the log shows it. -/
def Call.describe (c : Call) : String :=
  c.operation.keyword.title ++ "_NODE(" ++ String.ofList c.key ++ ", " ++
    String.ofList c.operation.value.render ++ ", " ++ String.ofList c.element ++ ")"

end Adventure.Action
