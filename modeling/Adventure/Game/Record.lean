/-!
# Game data

The records that the engine of the game reads: a map from room names to rooms, in ascending order of
the names, with the items of each room and what happens when items are used together.
-/

namespace Adventure.Game

/-- How many of an item there are. -/
inductive Amount where
  | count (n : Nat)
  | unlimited
  deriving DecidableEq, Repr

namespace Amount

instance : Inhabited Amount := ⟨.count 1⟩

/-- The spelling of an unlimited amount. -/
def unlimitedText : String := "inf"

/-- The decimal number of a count, or the word for an unlimited amount. -/
def text : Amount → String
  | .count n   => toString n
  | .unlimited => unlimitedText

end Amount

/-- What happens when an item is used with the item `name`. -/
structure UsedWith where
  name : String
  effectMessage : String
  consumesSubject : Bool := false
  consumesObject : Bool := false
  /-- Statements for the engine, one after the other. -/
  actions : String := ""
  deriving DecidableEq, Repr

structure Item where
  name : String
  description : Option String := none
  amount : Amount := default
  visible : Bool := true
  effect : Option String := none
  usedWith : List UsedWith := []
  deriving DecidableEq, Repr

/-- The two lists of items in a room. -/
inductive ItemKind where
  /-- The player can carry the item. -/
  | tangible
  | intangible
  deriving DecidableEq, Repr

def ItemKind.name : ItemKind → String
  | .tangible   => "tangible"
  | .intangible => "intangible"

structure Items where
  tangible : List Item := []
  intangible : List Item := []
  deriving DecidableEq, Repr, Inhabited

def Items.get (i : Items) : ItemKind → List Item
  | .tangible   => i.tangible
  | .intangible => i.intangible

/-- Where a room may lead. -/
inductive Direction where
  | north | east | south | west | up | down
  deriving DecidableEq, Repr

namespace Direction

/-- The directions in the order in which a room lists them. -/
def all : List Direction := [.north, .east, .south, .west, .up, .down]

def name : Direction → String
  | .north => "north"
  | .east  => "east"
  | .south => "south"
  | .west  => "west"
  | .up    => "up"
  | .down  => "down"

end Direction

/-- The names of the rooms that a room leads to. -/
structure Exits where
  north : Option String := none
  east : Option String := none
  south : Option String := none
  west : Option String := none
  up : Option String := none
  down : Option String := none
  deriving DecidableEq, Repr, Inhabited

namespace Exits

def get (e : Exits) : Direction → Option String
  | .north => e.north
  | .east  => e.east
  | .south => e.south
  | .west  => e.west
  | .up    => e.up
  | .down  => e.down

/-- The exits that a function of the direction describes. -/
def ofFn (f : Direction → Option String) : Exits :=
  ⟨f .north, f .east, f .south, f .west, f .up, f .down⟩

/-- The same exits except for the one in a direction. -/
def set (e : Exits) (d : Direction) (room : Option String) : Exits :=
  ofFn fun d' => if d' = d then room else e.get d'

/-- The exits that are set, in the order of the directions. -/
def toList (e : Exits) : List (Direction × String) :=
  Direction.all.filterMap fun d => (e.get d).map (d, ·)

@[simp] theorem get_ofFn (f : Direction → Option String) (d : Direction) :
    (ofFn f).get d = f d := by
  cases d <;> rfl

@[simp] theorem ofFn_get (e : Exits) : ofFn e.get = e := rfl

end Exits

structure Room where
  exits : Exits := {}
  description : String
  items : Items := {}
  deriving DecidableEq, Repr

/-- The name of the room in which the player starts. -/
def originRoom : String := "origin"

end Adventure.Game
