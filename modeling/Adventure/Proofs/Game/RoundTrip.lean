import Adventure.CommandLine.Run
import Adventure.Proofs.Json.RoundTrip
import Adventure.Proofs.Project.Counts

/-!
# Game data survives JSON

What is written as JSON is read back, on one line or on many: every field of every record is written,
the fields of a record are read in the order in which they were written, and the rooms come in the
order of their names, so that each is added behind the others.

* `Data.decode_toJson` : the value that is written is read as the same data.
* `Data.ofText_gameText` : so is the text, and reading and writing again changes nothing.
-/

namespace Adventure.Game

open Json Number

/-! ### Records -/

lemma decode_optionalString (s : Option String) :
    Decoder.optional Decoder.string (optionalString s).toReading = .ok s := by
  cases s <;> rfl

/-- Every amount but zero is decoded as what it was. -/
lemma Amount.decode_toJson_of_ne {a : Amount} (h : a ≠ .count 0) :
    Amount.decode a.toJson.toReading = .ok a := by
  cases a with
  | count n =>
    have hn : n ≠ 0 := fun hn => h (congrArg _ hn)
    simp [toJson, Value.toReading, decode, hn]
  | unlimited => rfl

lemma Amount.decode_toJson (a : Amount) (h : a.IsPositive) :
    Amount.decode a.toJson.toReading = .ok a := by
  apply decode_toJson_of_ne
  rintro rfl
  exact absurd h.1 (Nat.lt_irrefl 0)

lemma UsedWith.hasDistinctNames : UsedWith.shape.HasDistinctNames := by
  simp [Shape.HasDistinctNames, shape, requiredField, optionalField]

lemma Item.hasDistinctNames : Item.shape.HasDistinctNames := by
  simp [Shape.HasDistinctNames, shape, requiredField, optionalField]

lemma Items.hasDistinctNames : Items.shape.HasDistinctNames := by
  simp [Shape.HasDistinctNames, shape, optionalField]

lemma Room.hasDistinctNames : Room.shape.HasDistinctNames := by
  simp [Shape.HasDistinctNames, shape, requiredField, optionalField, Direction.all, Direction.name]

lemma UsedWith.decode_toJson (u : UsedWith) : shape.decode u.toJson.toReading = .ok u := by
  have hentries : u.toJson.toReading = .object (Shape.entries shape.fields
      [.string (some u.name), .string (some u.effectMessage), .boolean u.consumesSubject,
        .boolean u.consumesObject, .string (some u.actions)]) true := rfl
  rw [hentries, Shape.decode_object hasDistinctNames rfl]
  rfl

lemma decode_list_toJson {α : Type} {decode : Decoder α} {toJson : α → Value} {as : List α}
    (h : ∀ a ∈ as, decode (toJson a).toReading = .ok a) :
    Decoder.list decode (Value.array (as.map toJson)).toReading = .ok as := by
  rw [Value.toReading, elementReadings_eq_map, List.map_map]
  exact Decoder.list_map h

lemma Item.decode_toJson (i : Item) (h : i.amount.IsPositive) :
    shape.decode i.toJson.toReading = .ok i := by
  have hentries : i.toJson.toReading = .object (Shape.entries shape.fields
      [.string (some i.name), (optionalString i.description).toReading, i.amount.toJson.toReading,
        .boolean i.visible, (optionalString i.effect).toReading,
        (Value.array (i.usedWith.map UsedWith.toJson)).toReading]) true := rfl
  have husedWith := decode_list_toJson fun u (_ : u ∈ i.usedWith) => u.decode_toJson
  rw [hentries, Shape.decode_object hasDistinctNames rfl, Shape.decode]
  simp only [shape, Shape.putElements, requiredField, optionalField, decode_optionalString,
    Amount.decode_toJson _ h, husedWith]
  rfl

lemma Items.decode_toJson (i : Items) (h : i.HasPositiveAmounts) :
    shape.decode i.toJson.toReading = .ok i := by
  have hentries : i.toJson.toReading = .object (Shape.entries shape.fields
      [(Value.array (i.tangible.map Item.toJson)).toReading,
        (Value.array (i.intangible.map Item.toJson)).toReading]) true := rfl
  have htangible : Decoder.list Item.shape.decode
      (Value.array (i.tangible.map Item.toJson)).toReading = .ok i.tangible :=
    decode_list_toJson fun item hitem => Item.decode_toJson item (h .tangible item hitem)
  have hintangible : Decoder.list Item.shape.decode
      (Value.array (i.intangible.map Item.toJson)).toReading = .ok i.intangible :=
    decode_list_toJson fun item hitem => Item.decode_toJson item (h .intangible item hitem)
  rw [hentries, Shape.decode_object hasDistinctNames rfl, Shape.decode]
  simp only [shape, Shape.putElements, optionalField, htangible, hintangible]
  rfl

lemma Room.decode_toJson (r : Room) (h : r.items.HasPositiveAmounts) :
    shape.decode r.toJson.toReading = .ok r := by
  have hentries : r.toJson.toReading = .object (Shape.entries shape.fields
      (Direction.all.map (fun d => (optionalString (r.exits.get d)).toReading) ++
        [.string (some r.description), r.items.toJson.toReading])) true := rfl
  rw [hentries, Shape.decode_object hasDistinctNames rfl, Shape.decode]
  simp only [shape, Direction.all, List.map_cons, List.map_nil, List.cons_append, List.nil_append,
    Shape.putElements, optionalField, requiredField, decode_optionalString, r.items.decode_toJson h]
  rfl

/-! ### All rooms -/

/-- A room whose name comes after all others is added at the end. -/
lemma Data.insertSorted_of_forall_lt {name : String} {room : Room} {rs : List (String × Room)}
    (h : ∀ r ∈ rs, r.1 < name) : insertSorted name room rs = rs ++ [(name, room)] := by
  induction rs with
  | nil => rfl
  | cons r rs ih =>
    obtain ⟨hr, hrs⟩ := List.forall_mem_cons.1 h
    have hlt : ¬ name < r.1 := String.lt_asymm hr
    have hne : name ≠ r.1 := (String.ne_of_lt hr).symm
    rw [insertSorted, if_neg hlt, if_neg hne, ih hrs, List.cons_append]

/-- Rooms in the order of their names are added one behind the other. -/
lemma Data.addEntries_toJson {rs : List (String × Room)} {d d' : Data}
    (hrooms : d'.rooms = d.rooms ++ rs) (h : ∀ r ∈ rs, r.2.items.HasPositiveAmounts) :
    d.addEntries (entryReadings (rs.map fun r => (r.1, r.2.toJson))) = .ok d' := by
  -- `d` holds the rooms in front, whose names are less than those of `rs`.
  induction rs generalizing d with
  | nil =>
    rw [List.append_nil] at hrooms
    rw [Data.ext hrooms]
    rfl
  | cons r rs ih =>
    obtain ⟨name, room⟩ := r
    obtain ⟨hroom, hrs⟩ := List.forall_mem_cons.1 h
    have hsorted := d'.sorted
    rw [hrooms, List.map_append, List.pairwise_append] at hsorted
    obtain ⟨-, -, hlt⟩ := hsorted
    have hinsert : (d.insert name room).rooms = d.rooms ++ [(name, room)] := by
      apply insertSorted_of_forall_lt
      intro r hr
      exact hlt _ (List.mem_map_of_mem hr) _ (List.mem_cons_self ..)
    have hrest := ih (d := d.insert name room) (by rw [hrooms, hinsert, List.append_cons]) hrs
    rw [List.map_cons, entryReadings, addEntries, room.decode_toJson hroom]
    exact hrest

/-- The value that is written is read as the same data. -/
theorem Data.decode_toJson (d : Data) (h : d.HasPositiveAmounts) :
    Data.decode d.toJson.toReading = .ok d := by
  have hadd : empty.addEntries (entryReadings (d.rooms.map fun r => (r.1, r.2.toJson))) = .ok d :=
    addEntries_toJson rfl h
  simp only [toJson, Value.toReading, decode]
  rw [hadd]
  rfl

/-! ### Numbers -/

lemma fitsWords_optionalString (s : Option String) :
    (optionalString s).toReading.FitsWords := by
  cases s with
  | none => exact Reading.fitsWords_null
  | some s => exact Value.fitsWords_string s

lemma Amount.fitsWords_toJson {a : Amount} (h : a.IsPositive) : a.toJson.toReading.FitsWords := by
  cases a with
  | count n =>
    refine Reading.fitsWords_number.2 fun m hm => ?_
    obtain rfl := Numeral.integer.inj hm
    exact h.2
  | unlimited => exact Value.fitsWords_string _

lemma UsedWith.fitsWords_toJson (u : UsedWith) : u.toJson.toReading.FitsWords := by
  rw [toJson, Value.fitsWords_object_iff]
  simp [Value.fitsWords_string, Value.fitsWords_boolean]

lemma Item.fitsWords_toJson {i : Item} (h : i.amount.IsPositive) :
    i.toJson.toReading.FitsWords := by
  rw [toJson, Value.fitsWords_object_iff]
  simp [Value.fitsWords_string, Value.fitsWords_boolean, Value.fitsWords_array_iff,
    fitsWords_optionalString, Amount.fitsWords_toJson h, UsedWith.fitsWords_toJson]

lemma Items.fitsWords_toJson {i : Items} (h : i.HasPositiveAmounts) :
    i.toJson.toReading.FitsWords := by
  obtain ⟨htangible, hintangible⟩ := hasPositiveAmounts_iff.1 h
  rw [toJson, Value.fitsWords_object_iff]
  simp only [List.forall_mem_cons, Value.fitsWords_array_iff, List.forall_mem_map]
  exact ⟨fun item hitem => Item.fitsWords_toJson (htangible item hitem),
    fun item hitem => Item.fitsWords_toJson (hintangible item hitem), by simp⟩

lemma Room.fitsWords_toJson {r : Room} (h : r.items.HasPositiveAmounts) :
    r.toJson.toReading.FitsWords := by
  rw [toJson, Value.fitsWords_object_iff]
  simp only [List.forall_mem_append, List.forall_mem_map, List.forall_mem_cons]
  exact ⟨fun d _ => fitsWords_optionalString _, Value.fitsWords_string _,
    Items.fitsWords_toJson h, by simp⟩

/-- No number in game data exceeds the largest word, since amounts are the only ones. -/
lemma Data.fitsWords_toJson {d : Data} (h : d.HasPositiveAmounts) :
    d.toJson.toReading.FitsWords := by
  rw [toJson, Value.fitsWords_object_iff, List.forall_mem_map]
  exact fun r hr => Room.fitsWords_toJson (h r hr)

/-! ### Texts -/

/-- The text that is written in a layout of white space is read as the same data. -/
theorem Data.ofText_write {layout : Layout} (hl : layout.IsBlank) {d : Data}
    (h : d.HasPositiveAmounts) : Data.ofText (d.toJson.text layout).toList = .ok d := by
  rw [Value.text, String.toList_ofList, ofText, Reading.ofText_write hl (fitsWords_toJson h)]
  simp only [d.decode_toJson h]
  rfl

/-- The text of game data, on one line or on many, is read as the same data. -/
lemma Data.ofText_gameText_of_hasPositiveAmounts {d : Data} (h : d.HasPositiveAmounts)
    (pretty : Bool) : Data.ofText (CommandLine.gameText pretty d).toList = .ok d := by
  cases pretty with
  | false => exact ofText_write Layout.isBlank_compact h
  | true => exact ofText_write Layout.isBlank_indented h

/-- Game data with positive amounts survive JSON, on one line or on many, and all data that are read
from a text or compiled from room files are such: to write what was read, and to read that again,
changes neither the data nor the text. -/
theorem Data.ofText_gameText :
    (∀ d : Data, d.HasPositiveAmounts →
      ∀ pretty, Data.ofText (CommandLine.gameText pretty d).toList = .ok d) ∧
    (∀ text d, Data.ofText text = .ok d →
      d.HasPositiveAmounts ∧
      ∀ pretty, Data.ofText (CommandLine.gameText pretty d).toList = .ok d ∧
        (Data.ofText (CommandLine.gameText pretty d).toList).map (CommandLine.gameText pretty) =
          .ok (CommandLine.gameText pretty d)) ∧
    (∀ render files paths d, (Project.readRooms render files paths).result = .ok d →
      d.HasPositiveAmounts) ∧
    ∀ files dir emojis d, (Project.compile files dir emojis).result = .ok d →
      d.HasPositiveAmounts := by
  refine ⟨?_, ?_, ?_, ?_⟩
  · intro d hd pretty
    exact ofText_gameText_of_hasPositiveAmounts hd pretty
  · intro text d htext
    have hd := hasPositiveAmounts_of_ofText htext
    refine ⟨hd, fun pretty => ?_⟩
    have hread := ofText_gameText_of_hasPositiveAmounts hd pretty
    exact ⟨hread, by rw [hread]; rfl⟩
  · intro render files paths d hd
    exact Project.hasPositiveAmounts_of_readRooms hd
  · intro files dir emojis d hd
    exact Project.hasPositiveAmounts_of_compile hd

/-- A count of 64 bits, an item without limit, and text with quotes and control characters. -/
theorem Data.ofText_gameText_coins :
    let coin : Item :=
      { name := "coin", description := some "\"\\\x01\n\u2028", amount := .count 18446744073709551615
        usedWith := [{ name := "slot", effectMessage := "Clink!", consumesSubject := true }] }
    let water : Item := { name := "water", amount := .unlimited, visible := false }
    let room : Room :=
      { exits := { east := some "", up := some "attic" }, description := "é/😀"
        items := { tangible := [coin], intangible := [water] } }
    Data.ofText (CommandLine.gameText true (Data.empty.insert "origin" room)).toList =
      .ok (Data.empty.insert "origin" room) := by
  intro coin water room
  have hroom : room.items.HasPositiveAmounts := by
    simp [Items.hasPositiveAmounts_iff, room, coin, water, Amount.IsPositive, maxUInt64]
  exact ofText_gameText.1 _ (hasPositiveAmounts_empty.insert "origin" hroom) true

end Adventure.Game
