import Adventure.Game.Data
import Adventure.Json.Shape
import Adventure.Json.Value

/-!
# Game data in JSON

The form in which the engine reads game data. Writing sets every field; reading fills in what is
missing, where a field has a default.
-/

namespace Adventure.Game

open Json

/-! ### Writing -/

/-- A string or `null`. -/
def optionalString : Option String → Value
  | some s => .string s
  | none   => .null

/-- An amount: a number, or the word for an unlimited one. -/
def Amount.toJson : Amount → Value
  | .count n   => .number n
  | .unlimited => .string unlimitedText

def UsedWith.toJson (u : UsedWith) : Value :=
  .object [
    ("name", .string u.name),
    ("effect_message", .string u.effectMessage),
    ("consumes_subject", .boolean u.consumesSubject),
    ("consumes_object", .boolean u.consumesObject),
    ("actions", .string u.actions)]

def Item.toJson (i : Item) : Value :=
  .object [
    ("name", .string i.name),
    ("description", optionalString i.description),
    ("amount", i.amount.toJson),
    ("visible", .boolean i.visible),
    ("effect", optionalString i.effect),
    ("used_with", .array (i.usedWith.map UsedWith.toJson))]

def Items.toJson (i : Items) : Value :=
  .object [
    ("tangible", .array (i.tangible.map Item.toJson)),
    ("intangible", .array (i.intangible.map Item.toJson))]

/-- A room: its exits, its description and its items. -/
def Room.toJson (r : Room) : Value :=
  .object ((Direction.all.map fun d => (d.name, optionalString (r.exits.get d))) ++
    [("description", .string r.description), ("items", r.items.toJson)])

/-- All rooms by name. -/
def Data.toJson (d : Data) : Value :=
  .object (d.rooms.map fun (name, room) => (name, room.toJson))

/-! ### Reading -/

/-- A positive number, or the word for an unlimited amount. -/
def Amount.decode : Decoder Amount
  | .number (.integer n) =>
    if n ≤ 0 then .error (wrongValue "a positive integer or \"inf\"" (.number (.integer n)))
    else .ok (.count n.toNat)
  | .string (some s) =>
    if s = unlimitedText then .ok .unlimited
    else .error (wrongValue "a positive integer or \"inf\"" (.string (some s)))
  | v => .error (wrongType "a positive integer or \"inf\"" v)

def optionalField {α β : Type} (name : String) (decode : Decoder β) (set : α → β → α) : RecordField α :=
  ⟨name, false, fun a v => set a <$> decode v⟩

def requiredField {α β : Type} (name : String) (decode : Decoder β) (set : α → β → α) : RecordField α :=
  ⟨name, true, fun a v => set a <$> decode v⟩

def UsedWith.shape : Shape UsedWith where
  name := "struct UsedWithDef"
  fields := [
    requiredField "name" .string fun u name => { u with name },
    requiredField "effect_message" .string fun u effectMessage => { u with effectMessage },
    optionalField "consumes_subject" .boolean fun u consumesSubject => { u with consumesSubject },
    optionalField "consumes_object" .boolean fun u consumesObject => { u with consumesObject },
    optionalField "actions" .string fun u actions => { u with actions }]
  blank := { name := "", effectMessage := "" }

def Item.shape : Shape Item where
  name := "struct ItemDef"
  fields := [
    requiredField "name" .string fun i name => { i with name },
    optionalField "description" (.optional .string) fun i description => { i with description },
    optionalField "amount" Amount.decode fun i amount => { i with amount },
    optionalField "visible" .boolean fun i visible => { i with visible },
    optionalField "effect" (.optional .string) fun i effect => { i with effect },
    optionalField "used_with" (.list UsedWith.shape.decode) fun i usedWith => { i with usedWith }]
  blank := { name := "" }

def Items.shape : Shape Items where
  name := "struct ItemsDef"
  fields := [
    optionalField "tangible" (.list Item.shape.decode) fun i tangible => { i with tangible },
    optionalField "intangible" (.list Item.shape.decode) fun i intangible => { i with intangible }]
  blank := {}

def Room.shape : Shape Room where
  name := "struct RoomDef"
  fields := (Direction.all.map fun d => optionalField d.name (.optional .string) fun r target =>
      { r with exits := r.exits.set d target }) ++ [
    requiredField "description" .string fun r description => { r with description },
    optionalField "items" Items.shape.decode fun r items => { r with items }]
  blank := { description := "" }

def Data.addEntries : Data → List (Option String × Reading) → Except Fault Data
  | d, []             => .ok d
  | d, (key, v) :: es => do
    let name ← decodeKey key
    let room ← Room.shape.decode v
    addEntries (d.insert name room) es

/-- All rooms by name. Of two rooms of one name the later one is kept. -/
def Data.decode : Decoder Data
  | .object es closed => do
    let d ← Data.empty.addEntries es
    require closed
    return d
  | v => .error (wrongType "a map" v)

/-- The game data that a text holds. -/
def Data.ofText (text : List Char) : Except Fault Data := do
  let (v, ended) := Reading.ofText text
  let d ← Data.decode v
  require ended
  return d

end Adventure.Game
