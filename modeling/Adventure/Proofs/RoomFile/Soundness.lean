import Adventure.Proofs.RoomFile.Content

/-!
# Sound rooms

A room that is read from a file is sound: nothing in it that the player sees or the engine looks up
is empty, the amounts are positive, and the statements are those of the actions that the file lists.

* `isSound_of_read` : a room that is read is sound.
* `hasPositiveAmounts_of_read` : the amounts in a room are positive.
-/

namespace Adventure

/-! ### Sound data -/

namespace Game

/-- A used-with entry names an item and tells the player something. -/
structure UsedWith.IsSound (w : UsedWith) : Prop where
  name_ne : w.name ≠ ""
  effectMessage : Text.isBlank w.effectMessage.toList = false

/-- An item has a name, and a description unless it is hidden. -/
structure Item.IsSound (i : Item) : Prop where
  name_ne : i.name ≠ ""
  description : ∀ text ∈ i.description, Text.isBlank text.toList = false
  described : i.visible = true → i.description ≠ none
  amount : i.amount.IsPositiveInt64
  usedWith : ∀ w ∈ i.usedWith, w.IsSound

/-- A room has a description and sound items. -/
structure Room.IsSound (r : Room) : Prop where
  description : Text.isBlank r.description.toList = false
  items : ∀ kind, ∀ item ∈ r.items.get kind, item.IsSound

lemma Room.IsSound.hasPositiveAmounts {r : Room} (h : r.IsSound) : r.items.HasPositiveAmounts :=
  fun kind item hitem => (h.items kind item hitem).amount.isPositive

end Game

/-! ### Rooms that are read -/

namespace RoomFile

open Yaml (Value)

variable {render : Render} {place : ItemPlace} {name : String}

lemma isSound_of_readUsedWith {item : String} {v : Value} {w : Game.UsedWith}
    (h : (readUsedWith render place item v).result = .ok w) : w.IsSound := by
  obtain ⟨es, u, actions, -, -, -, hcompile⟩ := exists_of_readUsedWith h
  obtain ⟨⟨-, hname⟩, ⟨-, hmessage⟩, -⟩ := Draft.UsedWith.compile_eq_ok_iff.1 hcompile
  exact ⟨hname, hmessage⟩

lemma isSound_of_readItem {v : Value} {item : Game.Item}
    (h : (readItem render place v).result = .ok item) : item.IsSound := by
  obtain ⟨es, entry, vs, usedWith, -, hentry, -, husedWith, hcompile⟩ := exists_of_readItem h
  have hamount := Draft.Item.isPositiveInt64_of_compile (fitsInt64_of_ofEntries hentry) hcompile
  obtain ⟨⟨-, hname⟩, -, hd, hdescribed, -, -, hu⟩ := Draft.Item.compile_eq_ok_iff.1 hcompile
  refine ⟨hname, ?_, hdescribed, hamount, ?_⟩
  · intro text htext
    exact (Draft.nonBlank_eq_some_iff.1 (hd ▸ htext)).2
  · intro w hw
    obtain ⟨v, -, hv⟩ := exists_of_forall₂_of_mem husedWith (hu ▸ hw)
    exact isSound_of_readUsedWith hv

lemma isSound_of_readEntries {es : List (Value × Value)} {body : List Char} {room : Game.Room}
    (h : (readEntries render name es body).result = .ok room) : name ≠ "" ∧ room.IsSound := by
  obtain ⟨metadata, -, h⟩ := Logged.result_bind_eq_ok_iff.1 h
  obtain ⟨items, hitems, hcompile⟩ := exists_of_readRoom h
  obtain ⟨hname, hdescription, rfl⟩ := Draft.Room.compile_eq_ok_iff.1 hcompile
  refine ⟨hname, hdescription, fun kind item hitem => ?_⟩
  obtain ⟨vs, -, hvs⟩ := forall₂_of_readItems hitems kind
  obtain ⟨v, -, hv⟩ := exists_of_forall₂_of_mem hvs hitem
  exact isSound_of_readItem hv

/-- The amounts of the items in a room are positive. -/
theorem hasPositiveAmounts_of_read {text : List Char} {room : Game.Room}
    (h : (read render name text).result = .ok room) : room.items.HasPositiveAmounts := by
  obtain ⟨es, body, -, hread⟩ := exists_holds_of_read h
  exact (isSound_of_readEntries hread).2.hasPositiveAmounts

/-- A room that is read has a name and is sound. The items of a kind are those of a list in the
file, and the used-with entries of an item those of a list in its entry, each with the statements of
the actions that it lists. -/
theorem isSound_of_read {text : List Char} {room : Game.Room}
    (h : (read render name text).result = .ok room) :
    name ≠ "" ∧ room.IsSound ∧ ∃ es body, Holds text es body ∧
      ∀ kind, ∃ vs, IsItemList kind (Value.under? "items" es) vs ∧
        List.Forall₂
          (fun v (item : Game.Item) => ∃ es us, v.entries? = some es ∧
            IsList (Value.under? "used_with" es) us ∧
            List.Forall₂
              (fun u (w : Game.UsedWith) => ∃ es, u.entries? = some es ∧
                IsActionsOf render es w.actions)
              us item.usedWith)
          vs (room.items.get kind) := by
  obtain ⟨es, body, hholds, hread⟩ := exists_holds_of_read h
  obtain ⟨hname, hsound⟩ := isSound_of_readEntries hread
  refine ⟨hname, hsound, es, body, hholds, fun kind => ?_⟩
  obtain ⟨vs, hvs, hitems⟩ := (isRoomOf_of_readEntries hread).items kind
  refine ⟨vs, hvs, hitems.imp ?_⟩
  rintro v item ⟨es, hes, hitem⟩
  obtain ⟨us, hus, husedWith⟩ := hitem.usedWith
  refine ⟨es, us, hes, hus, husedWith.imp ?_⟩
  rintro u w ⟨es, hes, hw⟩
  exact ⟨es, hes, hw.actions⟩

/-- A hidden item without a description, and a blank action among those of its used-with entry. -/
theorem isSound_of_read_door :
    let text := "\n".intercalate ["---", "items:", " intangible:", " - name: door",
      "   visible: false", "   amount: inf", "   used_with:", "   - name: key",
      "     effect_message: y", "     actions: [\" \", \"set(a, 1, b)\"]", "---", "z"]
    let key : Game.UsedWith :=
      { name := "key", effectMessage := "y", actions := "getRoomOrItem(\"b\")[\"a\"] = 1;" }
    let door : Game.Item :=
      { name := "door", amount := .unlimited, visible := false, usedWith := [key] }
    (read id "hall" text.toList).result =
        .ok { description := "z", items := { intangible := [door] } } ∧
      door.IsSound ∧ ∃ es, IsActionsOf id es key.actions := by
  intro text key door
  have hread : (read id "hall" text.toList).result =
      .ok { description := "z", items := { intangible := [door] } } := by
    decide +kernel
  obtain ⟨-, hsound, es, body, -, hitems⟩ := isSound_of_read hread
  refine ⟨hread, hsound.items .intangible door (List.mem_singleton_self _), ?_⟩
  obtain ⟨vs, -, hvs⟩ := hitems .intangible
  obtain ⟨v, -, es, us, -, -, hus⟩ := exists_of_forall₂_of_mem hvs (List.mem_singleton_self door)
  obtain ⟨u, -, es, -, hactions⟩ := exists_of_forall₂_of_mem hus (List.mem_singleton_self key)
  exact ⟨es, hactions⟩

end RoomFile

end Adventure
