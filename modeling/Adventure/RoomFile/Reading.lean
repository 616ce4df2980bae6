import Adventure.RoomFile.Defect
import Adventure.RoomFile.Metadata
import Adventure.Yaml.Description

/-!
# Reading room files

A room file becomes a room. The tangible items are read before the intangible ones, each with its
used-with entries before itself, and the room comes last. Reading stops at the first defect.
-/

namespace Adventure.RoomFile

open Yaml (Value)

/-- Renders a text for the player. -/
abbrev Render := List Char → List Char

/-- A text as the player sees it. -/
def renderString (render : Render) (s : String) : String :=
  String.ofList (render s.toList)

/-- The elements of a list that may be missing or null; `onOther` is the defect of anything else. -/
def elements {ε : Type} (onOther : ε) : Option Value → Except ε (List Value)
  | none                => .ok []
  | some .null          => .ok []
  | some (.sequence vs) => .ok vs
  | some _              => .error onOther

/-! ### Used-with entries -/

def actionText (name : String) : Value → Except Draft.UsedWithDefect String
  | .string s => .ok s
  | v         => .error (.actionOfWrongType v.describe name)

/-- The actions of a used-with entry. -/
def actionTexts (u : UsedWithEntry) : Except Draft.UsedWithDefect (List String) := do
  let name := u.name.getD ""
  let vs ← elements (.actionsNotAList name) u.actions
  vs.mapM (actionText name)

def readUsedWith (render : Render) (place : ItemPlace) (item : String) (v : Value) :
    Logged Defect Game.UsedWith := do
  match v.entries? with
  | none    => .fail (.item place (.usedWithOfWrongType v.describe item))
  | some es =>
    let u ← .check (.usedWithShape place item) (UsedWithEntry.ofEntries es)
    let actions ← .check (.usedWith place item) (actionTexts u)
    let draft : Draft.UsedWith :=
      { name := u.name, effectMessage := u.effectMessage.map (renderString render)
        consumesSubject := u.consumesSubject, consumesObject := u.consumesObject, actions }
    (draft.compile render).mapError (.usedWith place item)

/-! ### Items -/

def readItem (render : Render) (place : ItemPlace) (v : Value) : Logged Defect Game.Item := do
  match v.entries? with
  | none    => .fail (.room place.room (.itemOfWrongType v.describe place.room))
  | some es =>
    let i ← .check (.itemShape place) (ItemEntry.ofEntries es)
    let name := i.name.getD ""
    let vs ← .ofExcept (elements (.item place (.usedWithNotAList name)) i.usedWith)
    let usedWith ← vs.mapM (readUsedWith render place name)  -- before the item itself is checked
    let draft : Draft.Item :=
      { name := i.name, description := i.description.map (renderString render), amount := i.amount
        visible := i.visible, effect := i.effect, usedWith }
    .check (.item place) draft.compile

/-- Reads the items of a kind. -/
def readItemsOf (render : Render) (place : ItemPlace) (es : List (Value × Value)) :
    Logged Defect (List Game.Item) := do
  let vs ← .ofExcept (elements (.room place.room (.notAList place.kind place.room))
    (Value.lookup place.kind.name es))
  vs.mapM (readItem render place)

def readItems (render : Render) (room : String) : Option Value → Logged Defect Game.Items
  | none               => return {}
  | some .null         => return {}
  | some (.mapping es) => do
    let tangible ← readItemsOf render ⟨.tangible, room⟩ es
    let intangible ← readItemsOf render ⟨.intangible, room⟩ es
    return { tangible, intangible }
  | some _             => .fail (.room room (.itemsNotAMapping room))

/-! ### Rooms -/

def itemsRecord (room : String) (items : Game.Items) : LogRecord :=
  ⟨.debug, "room '" ++ room ++ "': " ++ toString items.tangible.length ++ " tangible, " ++
    toString items.intangible.length ++ " intangible item(s)"⟩

/-- Reads the room `name` from its metadata and its body. -/
def readRoom (render : Render) (name : String) (metadata : Metadata) (body : List Char) :
    Logged Defect Game.Room := do
  let items ← readItems render name metadata.items  -- before the room itself is checked
  let record := itemsRecord name items
  .tell record.level record.message
  let draft : Draft.Room :=
    { name, description := String.ofList (render body), exits := metadata.exits, items }
  .check (.room name) draft.compile

/-- Reads the room `name` from the text of its file. -/
def read (render : Render) (name : String) (text : List Char) : Logged Defect Game.Room := do
  match split text with
  | none       => .fail (.missingMetadata name)
  | some parts =>
    let metadata ← .check (.metadata name) (Metadata.ofText parts.metadata)
    readRoom render name metadata parts.body

end Adventure.RoomFile
