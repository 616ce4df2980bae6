import Adventure.Action.Grammar
import Adventure.Action.Lexer

/-!
# Statements

The compiled form of an action is a statement such as
`getRoomOrItem("coin")["amount"] -= 1;`. A blank action has none, and the statements of a list of
actions follow each other without separator.
-/

namespace Adventure.Action

/-- The statement of a call, or the name whose quotes do not match. The element is looked at first. -/
def Call.statement (c : Call) : Except (List Char) (List Char) := do
  let element ← (unquote c.element).elim (.error c.element) .ok
  let key ← (unquote c.key).elim (.error c.key) .ok
  return "getRoomOrItem(\"".toList ++ element ++ "\")[\"".toList ++ key ++ "\"] ".toList ++
    c.operation.keyword.operator.toList ++ [' '] ++ c.operation.value.render ++ [';']

/-- The tokens of an action that the grammar sees. -/
def lex (action : List Char) : Except Failure (List Token) :=
  match tokenize action with
  | .ok ts      => .ok (significant ts)
  | .error rest => .error ⟨action, .undefinedToken rest⟩

/-- The call that an action makes. -/
def parse (render : List Char → List Char) (action : List Char) : Except Failure Call := do
  let ts ← lex action
  (readCall render ts).mapError (⟨action, ·⟩)

/-- The statement of an action; nothing for a blank one. -/
def compile (render : List Char → List Char) (action : List Char) :
    Except Failure (List Char) := do
  let ts ← lex action
  if ts.isEmpty then return []
  let call ← (readCall render ts).mapError (⟨action, ·⟩)
  call.statement.mapError fun name => ⟨action, .unbalancedQuote name⟩

/-- The statements of all actions in order. The first action that fails decides. -/
def compileAll (render : List Char → List Char) : List (List Char) → Except Failure (List Char)
  | []      => return []
  | a :: as => do
    let statement ← compile render a
    let rest ← compileAll render as
    return statement ++ rest

end Adventure.Action
