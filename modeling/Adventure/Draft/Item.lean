import Adventure.Draft.Amount
import Adventure.Draft.UsedWith

/-!
# Items as written

An item needs a name, and a description unless it is hidden. Everything else has a default.
-/

namespace Adventure.Draft

/-- An item as it was written. -/
structure Item where
  name : Option String := none
  /-- Rendered already. -/
  description : Option String := none
  amount : Option Amount := none
  visible : Option Bool := none
  effect : Option String := none
  usedWith : List Game.UsedWith := []
  deriving DecidableEq, Repr

inductive ItemDefect where
  | missingName
  | missingDescription (name : String)
  | amount (name : String) (defect : AmountDefect)
  | usedWithNotAList (name : String)
  | usedWithOfWrongType (entry name : String)
  deriving DecidableEq, Repr

/-- The amount of the item `name`; one, if none was written. -/
def resolveAmount (name : String) : Option Amount → Except ItemDefect Game.Amount
  | none        => .ok default
  | some amount => amount.resolve.mapError (.amount name)

/-- Checks what was written and fills in what was not. -/
def Item.compile (i : Item) : Except ItemDefect Game.Item := do
  let some name := nonEmpty i.name | throw .missingName
  let visible := i.visible.getD true
  let description := nonBlank i.description
  if visible && description.isNone then throw (.missingDescription name)
  let amount ← resolveAmount name i.amount
  return { name, description, amount, visible, effect := i.effect, usedWith := i.usedWith }

def ItemDefect.message : ItemDefect → String
  | .missingName => "Name missing for item"
  | .missingDescription name => "Description missing for item `" ++ name ++ "`"
  | .amount name defect => defect.message name
  | .usedWithNotAList name => "used_with items should be a list for item `" ++ name ++ "`"
  | .usedWithOfWrongType entry name =>
    "used_with item `" ++ entry ++ "` has incorrect type for item `" ++ name ++ "`"

end Adventure.Draft
