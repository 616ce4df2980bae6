import Adventure.Game.Data
import Adventure.Text.Blank

/-!
# Lints

Likely mistakes in game data that is otherwise fine: no room to start in, exits that lead nowhere, and
items that share a name.
-/

namespace Adventure.Game

/-- A likely mistake in game data. -/
inductive Lint where
  | missingOrigin
  /-- An exit leads to a room that does not exist. -/
  | missingRoom (room : String) (direction : Direction) (target : String)
  /-- An exit is set to a blank name. -/
  | blankExit (room : String) (direction : Direction)
  /-- An item has the name of an earlier one in the same list. -/
  | repeatedItem (room : String) (kind : ItemKind) (item : String)
  deriving DecidableEq, Repr

namespace Lint

def message : Lint → String
  | .missingOrigin => "missing origin room '" ++ originRoom ++ "'"
  | .missingRoom room direction target =>
    "missing room '" ++ target ++ "' (room '" ++ room ++ "' exit '" ++ direction.name ++ "')"
  | .blankExit room direction =>
    "invalid value (room '" ++ room ++ "' exit '" ++ direction.name ++ "' is empty)"
  | .repeatedItem room kind item =>
    "invalid value (room '" ++ room ++ "' lists " ++ kind.name ++ " item '" ++ item ++
      "' more than once)"

end Lint

namespace Data

/-- The lint about one exit of a room, if any. -/
def lintExit (d : Data) (room : String) (direction : Direction) (target : String) : Option Lint :=
  if Text.isBlank target.toList then some (.blankExit room direction)
  else if d.contains target then none
  else some (.missingRoom room direction target)

/-- The items whose name occurred earlier in the list; `seen` holds the names so far. -/
def repeatedNames (seen : List String) : List Item → List String
  | []      => []
  | i :: is =>
    if seen.contains i.name then i.name :: repeatedNames seen is
    else repeatedNames (i.name :: seen) is

def lintItems (room : String) (kind : ItemKind) (items : Items) : List Lint :=
  (repeatedNames [] (items.get kind)).map (.repeatedItem room kind)

/-- The lints about one room: its exits, then its items. -/
def lintRoom (d : Data) (name : String) (room : Room) : List Lint :=
  (room.exits.toList.filterMap fun (direction, target) => d.lintExit name direction target) ++
    lintItems name .tangible room.items ++ lintItems name .intangible room.items

/-- All lints, room by room. -/
def lints (d : Data) : List Lint :=
  (if d.contains originRoom then [] else [.missingOrigin]) ++
    d.rooms.flatMap fun (name, room) => d.lintRoom name room

end Data

end Adventure.Game
