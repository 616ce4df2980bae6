import Adventure.Proofs.RoomFile.Entries

/-!
# Keys that the format does not know

Entries under text keys that the format does not know may stand in the metadata of a room, among the
items, in an item and in a used-with entry. A room is read in the same way without them.

* `readEntries_knownRoom` : entries under unknown keys do not matter.
-/

namespace Adventure.RoomFile

open Yaml (Value Decoder KeepsNull keepsNull_onEntries keepsNull_onElements decodeRecord_knownEntries
  decodeRecord_mapUnder follows_ofOptional_self follows_ofOptional_of_ne)

variable {render : Render} {place : ItemPlace} {es : List (Value × Value)}

/-! ### Without unknown keys -/

/-- A used-with entry without unknown keys. -/
def knownUsedWith : Value → Value :=
  Value.onEntries (Value.knownEntries (UsedWithEntry.fields.map (·.name)))

/-- An item without unknown keys, in itself and in its used-with entries. -/
def knownItem : Value → Value :=
  Value.onEntries fun es =>
    Value.mapUnder "used_with" (Value.onElements knownUsedWith)
      (Value.knownEntries (ItemEntry.fields.map (·.name)) es)

/-- The lists of items without unknown keys, beside the lists and in them. -/
def knownItems : Value → Value :=
  Value.onEntries fun es =>
    (Value.knownEntries [Game.ItemKind.tangible.name, Game.ItemKind.intangible.name] es).map
      fun e => (e.1, e.2.onElements knownItem)

/-- The metadata of a room without unknown keys. -/
def knownRoom (es : List (Value × Value)) : List (Value × Value) :=
  Value.mapUnder "items" knownItems (Value.knownEntries (Metadata.fields.map (·.name)) es)

/-! ### Used-with entries -/

lemma readUsedWith_knownUsedWith (item : String) (v : Value) :
    readUsedWith render place item (knownUsedWith v) = readUsedWith render place item v := by
  cases hes : v.entries? with
  | none => rw [knownUsedWith, Value.onEntries_of_entries?_eq_none hes]
  | some es =>
    have hknown : (knownUsedWith v).entries? =
        some (Value.knownEntries (UsedWithEntry.fields.map (·.name)) es) := by
      rw [knownUsedWith, Value.entries?_onEntries, hes]
      rfl
    unfold readUsedWith
    simp only [hes, hknown, UsedWithEntry.ofEntries, decodeRecord_knownEntries]

/-! ### Items -/

/-- The elements of a list change with the list. -/
lemma elements_map_onElements {ε : Type} (onOther : ε) (f : Value → Value) (v : Option Value) :
    elements onOther (v.map (Value.onElements f)) = List.map f <$> elements onOther v := by
  rcases v with _ | v
  · rfl
  · cases v <;> rfl

/-- Unknown keys change no field of an item, and the used-with entries are passed on without theirs.
-/
lemma ItemEntry.ofEntries_known (es : List (Value × Value)) :
    ofEntries (Value.mapUnder "used_with" (Value.onElements knownUsedWith)
        (Value.knownEntries (fields.map (·.name)) es)) =
      (fun i => { i with usedWith := i.usedWith.map (Value.onElements knownUsedWith) }) <$>
        ofEntries es := by
  have hfields : ∀ g ∈ fields, Yaml.Follows "used_with" (Value.onElements knownUsedWith)
      (fun i => { i with usedWith := i.usedWith.map (Value.onElements knownUsedWith) }) g := by
    simp [fields, follows_ofOptional_self, follows_ofOptional_of_ne, keepsNull_onElements]
  rw [ofEntries, decodeRecord_mapUnder hfields rfl, decodeRecord_knownEntries]
  rfl

/-- Unknown keys of an item do not matter, nor do those of its used-with entries. -/
lemma readItem_knownItem (v : Value) :
    readItem render place (knownItem v) = readItem render place v := by
  cases hes : v.entries? with
  | none => rw [knownItem, Value.onEntries_of_entries?_eq_none hes]
  | some es =>
    have hknown : (knownItem v).entries? =
        some (Value.mapUnder "used_with" (Value.onElements knownUsedWith)
          (Value.knownEntries (ItemEntry.fields.map (·.name)) es)) := by
      rw [knownItem, Value.entries?_onEntries, hes]
      rfl
    unfold readItem
    simp only [hes, hknown, ItemEntry.ofEntries_known, Logged.check_map_bind,
      elements_map_onElements, Logged.ofExcept_map_bind, List.mapM_map, Function.comp_def,
      readUsedWith_knownUsedWith]

/-! ### Lists of items -/

/-- A known key has the same value after the others are gone. -/
lemma lookup_knownEntries {names : List String} {name : String} (h : name ∈ names) :
    Value.lookup name (Value.knownEntries names es) = Value.lookup name es := by
  induction es with
  | nil => rfl
  | cons e es ih =>
    obtain ⟨key, v⟩ := e
    by_cases hkey : key = .string name
    · subst hkey
      simp [Value.knownEntries, Value.isUnknown, Value.text?, Value.untag, h, Value.lookup]
    · have hskip : Value.lookup name ((key, v) :: es) = Value.lookup name es := by
        cases key <;> simp_all [Value.lookup]
      rw [hskip, ← ih]
      by_cases hunknown : key.isUnknown names = true
      · simp [Value.knownEntries, hunknown]
      · cases key <;> simp_all [Value.knownEntries, Value.lookup]

lemma lookup_map (f : Value → Value) (name : String) :
    Value.lookup name (es.map fun e => (e.1, f e.2)) = (Value.lookup name es).map f := by
  induction es with
  | nil => rfl
  | cons e es ih =>
    obtain ⟨key, v⟩ := e
    cases key with
    | string s => by_cases hs : s = name <;> simp [Value.lookup, hs, ih]
    | _ => simpa [Value.lookup] using ih

/-- Unknown keys of the items of a kind do not matter. -/
lemma readItemsOf_known (es : List (Value × Value)) :
    readItemsOf render place
        ((Value.knownEntries [Game.ItemKind.tangible.name, Game.ItemKind.intangible.name] es).map
          fun e => (e.1, e.2.onElements knownItem)) =
      readItemsOf render place es := by
  have hkind : place.kind.name ∈ [Game.ItemKind.tangible.name, Game.ItemKind.intangible.name] := by
    cases place.kind <;> simp
  unfold readItemsOf
  simp only [lookup_map, lookup_knownEntries hkind, elements_map_onElements,
    Logged.ofExcept_map_bind, List.mapM_map, Function.comp_def, readItem_knownItem]

/-- Unknown keys of the items of a room do not matter, beside the lists or in them. -/
lemma readItems_knownItems (name : String) (written : Option Value) :
    readItems render name (written.map knownItems) = readItems render name written := by
  rcases written with _ | v
  · rfl
  · cases v with
    | mapping es => simp only [Option.map_some, knownItems, Value.onEntries, readItems,
        readItemsOf_known]
    | _ => rfl

/-! ### Rooms -/

/-- Unknown keys change no field of the metadata, and the items are passed on without theirs. -/
lemma Metadata.ofEntries_knownRoom (es : List (Value × Value)) :
    ofEntries (knownRoom es) =
      (fun m => { m with items := m.items.map knownItems }) <$> ofEntries es := by
  have hfields : ∀ g ∈ fields, Yaml.Follows "items" knownItems
      (fun m => { m with items := m.items.map knownItems }) g := by
    have hnull : KeepsNull knownItems := keepsNull_onEntries _
    simp [fields, Game.Direction.all, Game.Direction.name, follows_ofOptional_self,
      follows_ofOptional_of_ne, hnull]
  rw [ofEntries, knownRoom, decodeRecord_mapUnder hfields rfl, decodeRecord_knownEntries]
  unfold ofEntries
  cases Yaml.decodeRecord fields {} es <;> rfl

/-- Entries under keys that the format does not know change neither the room nor the log, nor what
is wrong with the file. -/
theorem readEntries_knownRoom (render : Render) (name : String) (es : List (Value × Value))
    (body : List Char) :
    readEntries render name (knownRoom es) body = readEntries render name es body := by
  unfold readEntries readRoom
  simp only [Metadata.ofEntries_knownRoom, Logged.check_map_bind, readItems_knownItems]

end Adventure.RoomFile
