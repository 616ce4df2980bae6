import Adventure.Game.Data
import Adventure.Markdown.Render
import Adventure.Project.Settings
import Adventure.RoomFile.Reading

/-!
# Projects

A project is a directory with a directory of room files, among them that of the room in which the
player starts. Each file is a room, named by the file.
-/

namespace Adventure.Project

open Files

inductive Defect where
  | missingRooms (dir : String)
  | missingOrigin (dir : String)
  | unreadable (path : String) (problem : Problem)
  /-- The directory of room files cannot be listed. -/
  | unlistable (path : String) (problem : Problem)
  | roomFile (path : String) (defect : RoomFile.Defect)
  | settings (defect : Settings.Defect)
  deriving DecidableEq, Repr

/-- The message about a defect, without its cause. -/
def Defect.message : Defect → String
  | .missingRooms dir =>
    "Rooms directory not found in " ++ dir ++ ". Please create the rooms/ directory."
  | .missingOrigin dir =>
    "Origin room (origin.md) not found in " ++ dir ++ ". Please create an origin room."
  | .unreadable path _ => "could not read " ++ path
  | .unlistable path _ => "could not list room files in " ++ path
  | .roomFile path _   => "in room file " ++ path
  | .settings d        => d.message

/-! ### Layout -/

def roomsName : String := "rooms"

def roomExtension : String := "md"

/-- The file of the room in which the player starts. -/
def originPath (dir : String) : String :=
  join (join dir roomsName) (Game.originRoom ++ "." ++ roomExtension)

/-- A project has room files, and one of them is that of the room in which the player starts. -/
def verify (files : Tree) (dir : String) : Except Defect Unit :=
  if !files.isDirectory (join dir roomsName) then .error (.missingRooms dir)
  else if !files.isFile (originPath dir) then .error (.missingOrigin dir)
  else .ok ()

def isRoomFile (entry : String × Tree) : Bool :=
  match entry.2 with
  | .file _      => Files.extension? entry.1 == some roomExtension
  | .directory _ => false

/-- The names of the room files among the entries of a directory, in ascending order. -/
def roomFileNames (entries : List (String × Tree)) : List String :=
  ((entries.filter isRoomFile).map Prod.fst).mergeSort fun a b => !(b < a)

/-- The paths of the room files in a directory. A file in its place has none. -/
def collect (files : Tree) (roomsDir : String) : Except Defect (List String) :=
  match files.find roomsDir with
  | .ok (.directory es) => .ok ((roomFileNames es).map (join roomsDir))
  | .ok (.file _)       => .ok []
  | .error problem      => .error (.unlistable roomsDir problem)

/-! ### Rooms -/

/-- Adds the room of a file. It takes the place of an earlier room of the same name. -/
def addRoom (render : RoomFile.Render) (files : Tree) (game : Game.Data) (path : String) :
    Logged Defect Game.Data := do
  let text ← .check (.unreadable path) (files.readText path)
  let name := stem path
  let room ← (RoomFile.read render name text).mapError (.roomFile path)
  .tell .debug ("compiled room '" ++ name ++ "' from " ++ path)
  if game.contains name then
    .tell .warning ("room '" ++ name ++ "' defined more than once; " ++ path ++ " wins")
  return game.insert name room

/-- The rooms of files, one file after the other. -/
def readRooms (render : RoomFile.Render) (files : Tree) (paths : List String) :
    Logged Defect Game.Data :=
  paths.foldlM (addRoom render files) .empty

def itemCount (game : Game.Data) : Nat :=
  game.rooms.foldr (fun r n => r.2.items.tangible.length + r.2.items.intangible.length + n) 0

/-- The game of the project in a directory. -/
def compile (files : Tree) (dir : String) (emojis : Markdown.Emojis := Markdown.knownEmojis) :
    Logged Defect Game.Data := do
  .ofExcept (verify files dir)  -- before the settings are read
  let settings ← (Settings.load files dir).mapError .settings
  let paths ← .ofExcept (collect files (join dir roomsName))
  let game ← readRooms (Markdown.renderWith emojis settings.markdown) files paths
  .tell .info ("compiled " ++ toString game.rooms.length ++ " room(s) with " ++
    toString (itemCount game) ++ " item(s)")
  return game

end Adventure.Project
