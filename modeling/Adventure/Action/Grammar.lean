import Adventure.Action.Call
import Adventure.Action.Failure
import Adventure.Action.Literal
import Adventure.Number.Integer

/-!
# The grammar of the action language

A call is a keyword and three arguments in parentheses. `set` takes the key, the value and the
element; the other functions take the value, the key and the element. The text of a Markdown literal
is rendered by a given function.
-/

namespace Adventure.Action

/-- Reads part of a call off the front of the tokens. -/
abbrev Reader (α : Type) := List Token → Except Cause (α × List Token)

def readToken (expected : TokenKind) : Reader Token
  | []      => .error (.unexpectedEnd expected)
  | t :: ts => if t.kind = expected then .ok (t, ts) else .error (.unexpectedToken expected t.kind)

/-- A token of the given kind, of which only the presence matters. -/
def skipToken (expected : TokenKind) (ts : List Token) : Except Cause (List Token) := do
  let (_, ts) ← readToken expected ts
  return ts

/-- A plain string literal, on one line. -/
def readString : Reader (List Char) := fun ts => do
  let (t, ts) ← readToken .string ts
  return (singleLine t.lexeme, ts)

/-- A key or an element: a string literal or an identifier. -/
def readName : Reader (List Char)
  | ⟨.string, l⟩ :: ts => readString (⟨.string, l⟩ :: ts)
  | ts => do
    let (t, ts) ← readToken .identifier ts
    return (t.lexeme, ts)

def readInteger : Reader Int := fun ts => do
  let (t, ts) ← readToken .integer ts
  match Number.readInt64 t.lexeme with
  | some n => return (n, ts)
  | none   => throw (.integerOutOfRange t.lexeme)

/-- An integer other than zero. -/
def readDivisor : Reader { n : Int // n ≠ 0 } := fun ts => do
  let (n, ts) ← readInteger ts
  -- Zero is refused here, before anything behind it is looked at.
  if h : n = 0 then throw .divisionByZero else return (⟨n, h⟩, ts)

/-- The value of `set` and `add`: an integer, a Markdown literal or a string literal. -/
def readValue (render : List Char → List Char) : Reader Value
  | ⟨.integer, l⟩ :: ts => do
    let (n, ts) ← readInteger (⟨.integer, l⟩ :: ts)
    return (.integer n, ts)
  | ⟨.mdString, l⟩ :: ts => return (.text (quote (render (mdInterior l))), ts)
  | ts => do
    let (l, ts) ← readString ts
    return (.text l, ts)

/-- The end of a call whose value comes first: the key, the element and the closing parenthesis. -/
def readKeyAndElement : Reader (List Char × List Char) := fun ts => do
  let ts ← skipToken .comma ts
  let (key, ts) ← readName ts
  let ts ← skipToken .comma ts
  let (element, ts) ← readName ts
  let ts ← skipToken .cparen ts
  return ((key, element), ts)

/-- The arguments of a call, its value read by `value`, with the value in front. -/
def readValueFirst {α : Type} (value : Reader α) (operation : α → Operation) : Reader Call :=
  fun ts => do
    let ts ← skipToken .oparen ts
    let (v, ts) ← value ts
    let ((key, element), ts) ← readKeyAndElement ts
    return (⟨key, element, operation v⟩, ts)

/-- The arguments of a call with the key in front. -/
def readKeyFirst (render : List Char → List Char) : Reader Call := fun ts => do
  let ts ← skipToken .oparen ts
  let (key, ts) ← readName ts
  let ts ← skipToken .comma ts
  let (v, ts) ← readValue render ts
  let ts ← skipToken .comma ts
  let (element, ts) ← readName ts
  let ts ← skipToken .cparen ts
  return (⟨key, element, .set v⟩, ts)

def readArguments (render : List Char → List Char) : Keyword → Reader Call
  | .set => readKeyFirst render
  | .add => readValueFirst (readValue render) .add
  | .sub => readValueFirst readInteger .sub
  | .mul => readValueFirst readInteger .mul
  | .div => readValueFirst readDivisor fun n => .div n.1 n.2

/-- A call from all tokens of an action. -/
def readCall (render : List Char → List Char) : List Token → Except Cause Call
  | [] => throw .noTokens
  | t :: ts =>
    match t.kind with
    | .keyword k => do
      match ← readArguments render k ts with
      | (call, [])     => return call
      | (_,    t :: _) => throw (.trailingTokens t.lexeme)
    | _ => throw (.undefinedStructure t)

end Adventure.Action
