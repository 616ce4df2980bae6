import Adventure.Proofs.Draft.Amount
import Adventure.Proofs.RoomFile.Reading
import Adventure.Proofs.Yaml.Record

/-!
# Metadata as entries

The metadata of a room file are the entries of a mapping, and so are those of an item and of a
used-with entry. Each field of them is read from the value under its key.

* `read_of_holds` : a file is read as its entries and its body.
* `Metadata.reads`, `ItemEntry.reads`, `UsedWithEntry.reads` : what the fields are read from.
-/

namespace Adventure.RoomFile

open Yaml (Value Decoder Reads Shows decodeRecord reads_of_decodeRecord shows_ofOptional_self
  shows_ofOptional_of_ne)

variable {es : List (Value × Value)}

/-! ### Files -/

/-- The entries of the metadata in a text. Blank metadata and null have none. -/
def metadataEntries (text : List Char) : Except Yaml.Fault (List (Value × Value)) :=
  if isBlankMetadata text then .ok [] else do
    match ← Value.ofText text with
    | .null       => return []
    | .mapping es => return es
    | _           => throw (.mismatch (.other "metadata should be a mapping"))

/-- The file holds the entries `es` as its metadata, and behind them the body. -/
def Holds (text : List Char) (es : List (Value × Value)) (body : List Char) : Prop :=
  ∃ parts, split text = some parts ∧ metadataEntries parts.metadata = .ok es ∧ parts.body = body

/-- The metadata that entries make. -/
def Metadata.ofEntries (es : List (Value × Value)) : Except Yaml.Fault Metadata :=
  (decodeRecord fields {} es).mapError .mismatch

/-- Reads the room `name` from the entries of its metadata and its body. -/
def readEntries (render : Render) (name : String) (es : List (Value × Value)) (body : List Char) :
    Logged Defect Game.Room := do
  let metadata ← .check (.metadata name) (Metadata.ofEntries es)
  readRoom render name metadata body

lemma Metadata.ofText_eq (text : List Char) :
    ofText text = metadataEntries text >>= ofEntries := by
  unfold ofText metadataEntries
  split_ifs
  · rfl
  · cases Value.ofText text with
    | error fault => rfl
    | ok v => cases v <;> rfl

/-- A file is read as its entries and its body. -/
theorem read_of_holds {text body : List Char} (h : Holds text es body) (render : Render)
    (name : String) : read render name text = readEntries render name es body := by
  obtain ⟨parts, hparts, hes, rfl⟩ := h
  have hmetadata : Metadata.ofText parts.metadata = Metadata.ofEntries es := by
    rw [Metadata.ofText_eq, hes]
    rfl
  rw [read, hparts]
  simp only [hmetadata, readEntries]

lemma exists_holds_of_ofText {text : List Char} {parts : Parts} {metadata : Metadata}
    (hparts : split text = some parts) (h : Metadata.ofText parts.metadata = .ok metadata) :
    ∃ es, Holds text es parts.body ∧ Metadata.ofEntries es = .ok metadata := by
  rw [Metadata.ofText_eq] at h
  obtain ⟨es, hes, h⟩ := bind_eq_ok_iff.1 h
  exact ⟨es, ⟨parts, hparts, hes, rfl⟩, h⟩

/-- A file that is read holds entries. -/
lemma exists_holds_of_read {render : Render} {name : String} {text : List Char} {room : Game.Room}
    (h : (read render name text).result = .ok room) :
    ∃ es body, Holds text es body ∧ (readEntries render name es body).result = .ok room := by
  obtain ⟨parts, metadata, hparts, hmetadata, -⟩ := exists_of_read h
  obtain ⟨es, hholds, -⟩ := exists_holds_of_ofText hparts hmetadata
  exact ⟨es, parts.body, hholds, by rwa [← read_of_holds hholds]⟩

/-! ### Fields -/

/-- Metadata that are decoded show the exits and the items under their keys. -/
lemma Metadata.reads {m : Metadata} (h : decodeRecord fields {} es = .ok m) :
    (∀ d : Game.Direction, Reads .name d.name es (m.exits.get d)) ∧
      Reads .any "items" es m.items := by
  refine ⟨fun d => ?_, ?_⟩
  · refine reads_of_decodeRecord (fun m => m.exits.get d) ?_ ?_ (by cases d <;> rfl) h
    · cases d <;> simp [fields, Game.Direction.all]
    · cases d <;> simp [fields, Game.Direction.all, Game.Direction.name, Game.Exits.set,
        shows_ofOptional_self, shows_ofOptional_of_ne]
  · refine reads_of_decodeRecord _ (by simp [fields]) ?_ rfl h
    simp [fields, Game.Direction.all, Game.Direction.name, shows_ofOptional_self,
      shows_ofOptional_of_ne]

/-- An item that is decoded shows what the entries hold under its keys. -/
lemma ItemEntry.reads {i : ItemEntry} (h : ofEntries es = .ok i) :
    Reads .name "name" es i.name ∧ Reads .string "description" es i.description ∧
      Reads .amount "amount" es i.amount ∧ Reads .boolean "visible" es i.visible ∧
      Reads .string "effect" es i.effect ∧ Reads .any "used_with" es i.usedWith := by
  refine ⟨?_, ?_, ?_, ?_, ?_, ?_⟩
  all_goals
    refine reads_of_decodeRecord _ (by simp [fields]) ?_ rfl h
    simp [fields, shows_ofOptional_self, shows_ofOptional_of_ne]

/-- A used-with entry that is decoded shows what the entries hold under its keys. -/
lemma UsedWithEntry.reads {u : UsedWithEntry} (h : ofEntries es = .ok u) :
    Reads .name "name" es u.name ∧ Reads .string "effect_message" es u.effectMessage ∧
      Reads .boolean "consumes_subject" es u.consumesSubject ∧
      Reads .boolean "consumes_object" es u.consumesObject ∧ Reads .any "actions" es u.actions := by
  refine ⟨?_, ?_, ?_, ?_, ?_⟩
  all_goals
    refine reads_of_decodeRecord _ (by simp [fields]) ?_ rfl h
    simp [fields, shows_ofOptional_self, shows_ofOptional_of_ne]

/-! ### Amounts -/

/-- An amount is decoded as an integer only if it fits into 64 bits with a sign. -/
lemma fitsInt64_of_decode {v : Value} {a : Draft.Amount} (h : Decoder.amount v = .ok a) :
    a.FitsInt64 := by
  unfold Decoder.amount at h
  split at h
  · split_ifs at h with hn
    · obtain rfl := Except.ok.inj h
      exact hn
    · obtain rfl := Except.ok.inj h
      trivial
  · obtain rfl := Except.ok.inj h
    trivial
  · obtain rfl := Except.ok.inj h
    trivial
  · cases h

/-- An amount that is read as an integer has at most 64 bits. -/
lemma fitsInt64_of_ofEntries {i : ItemEntry} (h : ItemEntry.ofEntries es = .ok i) :
    ∀ w ∈ i.amount, w.FitsInt64 := by
  intro w hw
  obtain ⟨-, -, hamount, -⟩ := ItemEntry.reads h
  exact fitsInt64_of_decode (Decoder.optional_eq_ok hamount w hw)

end Adventure.RoomFile
