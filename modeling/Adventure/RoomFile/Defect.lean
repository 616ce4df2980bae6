import Adventure.Draft.Room
import Adventure.Yaml.Reading

/-!
# Defects of room files

What may be wrong with a room file, with the room and the item or used-with entry in which it is.
-/

namespace Adventure.RoomFile

/-- Where an item stands: in a list of items of a room. -/
structure ItemPlace where
  kind : Game.ItemKind
  room : String
  deriving DecidableEq, Repr

inductive Defect where
  /-- There is no metadata between fences. -/
  | missingMetadata (room : String)
  | metadata (room : String) (fault : Yaml.Fault)
  /-- An item does not have the shape of one. -/
  | itemShape (place : ItemPlace) (mismatch : Mismatch)
  | item (place : ItemPlace) (defect : Draft.ItemDefect)
  /-- A used-with entry of the item `item` does not have the shape of one. -/
  | usedWithShape (place : ItemPlace) (item : String) (mismatch : Mismatch)
  | usedWith (place : ItemPlace) (item : String) (defect : Draft.UsedWithDefect)
  | room (room : String) (defect : Draft.RoomDefect)
  deriving DecidableEq, Repr

/-- The message about an item that cannot be read. -/
def itemMessage (place : ItemPlace) : String :=
  "Could not parse " ++ place.kind.name ++ " item in room `" ++ place.room ++ "`"

def usedWithMessage (place : ItemPlace) (item : String) : String :=
  "Could not parse used_with item for " ++ place.kind.name ++ " item `" ++ item ++ "` in room `" ++
    place.room ++ "`"

/-- The message about a defect, without its cause. -/
def Defect.message : Defect → String
  | .missingMetadata name       => "Missing `---` metadata block in room `" ++ name ++ "`"
  | .metadata name _            => "Invalid metadata in room `" ++ name ++ "`"
  | .itemShape place _          => itemMessage place
  | .item place _               => itemMessage place
  | .usedWithShape place of _   => usedWithMessage place of
  | .usedWith place of _        => usedWithMessage place of
  | .room name _                => "Could not parse room `" ++ name ++ "`"

end Adventure.RoomFile
