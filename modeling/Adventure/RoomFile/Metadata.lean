import Adventure.Game.Record
import Adventure.RoomFile.Frontmatter
import Adventure.Yaml.Shape

/-!
# Metadata

The metadata of a room, of an item and of a used-with entry, read from YAML. Lists of further entries
are kept as they are, so that whoever looks into them can tell where a fault is.
-/

namespace Adventure.RoomFile

open Yaml (Value RecordField Decoder)

structure Metadata where
  exits : Game.Exits := {}
  items : Option Value := none

namespace Metadata

def fields : List (RecordField Metadata) :=
  (Game.Direction.all.map fun d =>
    .ofOptional d.name .name fun m room => { m with exits := m.exits.set d room }) ++
  [.ofOptional "items" .any fun m items => { m with items }]

/-- Metadata are a mapping; null counts as an empty one. -/
def ofValue : Value → Except Yaml.Fault Metadata
  | .null       => .ok {}
  | .mapping es => (Yaml.decodeRecord fields {} es).mapError .mismatch
  | _           => .error (.mismatch (.other "metadata should be a mapping"))

/-- The metadata in a text. Blank lines and comments are none. -/
def ofText (text : List Char) : Except Yaml.Fault Metadata :=
  if isBlankMetadata text then .ok {} else do ofValue (← Value.ofText text)

end Metadata

structure ItemEntry where
  name : Option String := none
  description : Option String := none
  amount : Option Draft.Amount := none
  visible : Option Bool := none
  effect : Option String := none
  usedWith : Option Value := none

def ItemEntry.fields : List (RecordField ItemEntry) := [
  .ofOptional "name" .name fun i name => { i with name },
  .ofOptional "description" .string fun i description => { i with description },
  .ofOptional "amount" .amount fun i amount => { i with amount },
  .ofOptional "visible" .boolean fun i visible => { i with visible },
  .ofOptional "effect" .string fun i effect => { i with effect },
  .ofOptional "used_with" .any fun i usedWith => { i with usedWith }]

def ItemEntry.ofEntries (es : List (Value × Value)) : Except Mismatch ItemEntry :=
  Yaml.decodeRecord fields {} es

structure UsedWithEntry where
  name : Option String := none
  effectMessage : Option String := none
  consumesSubject : Option Bool := none
  consumesObject : Option Bool := none
  actions : Option Value := none

def UsedWithEntry.fields : List (RecordField UsedWithEntry) := [
  .ofOptional "name" .name fun u name => { u with name },
  .ofOptional "effect_message" .string fun u effectMessage => { u with effectMessage },
  .ofOptional "consumes_subject" .boolean fun u consumesSubject => { u with consumesSubject },
  .ofOptional "consumes_object" .boolean fun u consumesObject => { u with consumesObject },
  .ofOptional "actions" .any fun u actions => { u with actions }]

def UsedWithEntry.ofEntries (es : List (Value × Value)) : Except Mismatch UsedWithEntry :=
  Yaml.decodeRecord fields {} es

end Adventure.RoomFile
