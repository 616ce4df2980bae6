import Adventure.Action.Statement
import Adventure.Game.Record
import Adventure.Log
import Adventure.Text.Blank

/-!
# Using items together, as written

An author names the other item, writes the message that the player sees, and lists actions.
-/

namespace Adventure.Draft

/-- What happens when an item is used with another, as it was written. -/
structure UsedWith where
  name : Option String := none
  /-- Rendered already. -/
  effectMessage : Option String := none
  consumesSubject : Option Bool := none
  consumesObject : Option Bool := none
  actions : List String := []
  deriving DecidableEq, Repr

inductive UsedWithDefect where
  | missingName
  | missingEffectMessage (name : String)
  | actionsNotAList (name : String)
  | actionOfWrongType (entry name : String)
  | action (name : String) (failure : Action.Failure)
  deriving DecidableEq, Repr

/-- A name, unless it is missing or empty. -/
def nonEmpty (name : Option String) : Option String :=
  name.filter fun n => !n.isEmpty

/-- A text, unless it is missing or blank. -/
def nonBlank (text : Option String) : Option String :=
  text.filter fun t => !Text.isBlank t.toList

/-- The calls of a list of actions, up to the first action that makes none although it is not blank. -/
def calls (render : List Char → List Char) : List String → List Action.Call
  | []      => []
  | a :: as =>
    match Action.parse render a.toList with
    | .ok call => call :: calls render as
    | .error f => if f.cause = .noTokens then calls render as else []

/-- The statements of a list of actions. Every call is logged. -/
def compileActions (render : List Char → List Char) (actions : List String) :
    Logged Action.Failure String :=
  ⟨(calls render actions).map fun call => ⟨.trace, "compiled action " ++ call.describe⟩,
    (Action.compileAll render (actions.map String.toList)).map String.ofList⟩

/-- Checks what was written, fills in what was not, and compiles the actions. -/
def UsedWith.compile (render : List Char → List Char) (u : UsedWith) :
    Logged UsedWithDefect Game.UsedWith :=
  match nonEmpty u.name with
  | none => .fail .missingName
  | some name =>
    match nonBlank u.effectMessage with
    | none => .fail (.missingEffectMessage name)
    | some effectMessage => do
      let actions ← (compileActions render u.actions).mapError (.action name)
      return {
        name, effectMessage, actions
        consumesSubject := u.consumesSubject.getD false
        consumesObject := u.consumesObject.getD false }

def UsedWithDefect.message : UsedWithDefect → String
  | .missingName => "Name missing for used_with item"
  | .missingEffectMessage name => "Effect message missing for used_with item `" ++ name ++ "`"
  | .actionsNotAList name => "Actions should be a list for used_with item `" ++ name ++ "`"
  | .actionOfWrongType entry name =>
    "Action `" ++ entry ++ "` has incorrect type for used_with item `" ++ name ++ "`"
  | .action name _ => "Invalid action for used_with item `" ++ name ++ "`"

end Adventure.Draft
