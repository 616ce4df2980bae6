import Adventure.Draft.Item

/-!
# Rooms as written

A room needs a name and a description.
-/

namespace Adventure.Draft

/-- A room as it was written. -/
structure Room where
  name : String
  /-- Rendered already. -/
  description : String
  exits : Game.Exits := {}
  items : Game.Items := {}
  deriving DecidableEq, Repr

inductive RoomDefect where
  | missingName
  | missingDescription (name : String)
  | itemsNotAMapping (name : String)
  | notAList (kind : Game.ItemKind) (name : String)
  | itemOfWrongType (entry name : String)
  deriving DecidableEq, Repr

/-- Checks what was written. -/
def Room.compile (r : Room) : Except RoomDefect Game.Room :=
  if r.name.isEmpty then .error .missingName
  else if Text.isBlank r.description.toList then .error (.missingDescription r.name)
  else .ok { description := r.description, exits := r.exits, items := r.items }

def RoomDefect.message : RoomDefect → String
  | .missingName => "Name missing for room"
  | .missingDescription name => "Description missing for room `" ++ name ++ "`"
  | .itemsNotAMapping name => "Items should be a mapping for room `" ++ name ++ "`"
  | .notAList .tangible name => "Tangible items should be a list for room `" ++ name ++ "`"
  | .notAList .intangible name => "Intangible items should be a list for room `" ++ name ++ "`"
  | .itemOfWrongType entry name =>
    "Item `" ++ entry ++ "` has incorrect type for room `" ++ name ++ "`"

end Adventure.Draft
