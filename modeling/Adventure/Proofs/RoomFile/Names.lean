import Adventure.Markdown.Render
import Adventure.Proofs.Files.Path
import Adventure.Proofs.RoomFile.Content
import Adventure.Proofs.Yaml.Integers

/-!
# Names in room files

Exits, items and used-with entries have names, and each is read from the value that stands in its
place. A name may be written as an integer, and then the room is named like the file of that number,
as long as the integer fits into 64 bits with a sign.

* `IsRoomOf.name_eq` : a name is read from the value in its place.
* `integer_names_of_read` : what becomes of integers in the places of names.
* `integer_names_collide` : larger integers are rounded, and different ones become the same name.
-/

namespace Adventure.RoomFile

open Files Number
open Yaml (Value Decoder Reads plainValue plainValue_toString exists_plainValue_eq_integer_iff
  fitsWord64_of_fitsInt64)

variable {render : Render} {name : String} {es fs gs : List (Value × Value)} {body : List Char}
  {room : Game.Room} {item : Game.Item} {w : Game.UsedWith} {v : Value} {n : Int} {s : String}

/-! ### The places of names -/

/-- The entries `fs` stand where the item of the room is written. -/
def IsItemAt (es : List (Value × Value)) (room : Game.Room) (fs : List (Value × Value))
    (item : Game.Item) : Prop :=
  ∃ kind vs u, IsItemList kind (Value.under? "items" es) vs ∧ u.entries? = some fs ∧
    (u, item) ∈ vs.zip (room.items.get kind)

/-- The entries `gs` stand where the used-with entry of the item is written. -/
def IsUsedWithAt (fs : List (Value × Value)) (item : Game.Item) (gs : List (Value × Value))
    (w : Game.UsedWith) : Prop :=
  ∃ vs u, IsList (Value.under? "used_with" fs) vs ∧ u.entries? = some gs ∧
    (u, w) ∈ vs.zip item.usedWith

/-- The value stands where a name is written, and the room has that name there. -/
inductive IsNameAt (es : List (Value × Value)) (room : Game.Room) : Value → String → Prop
  | exit {d : Game.Direction} {v : Value} {s : String} (hv : Value.under? d.name es = some v)
      (hs : room.exits.get d = some s) : IsNameAt es room v s
  | item {fs : List (Value × Value)} {item : Game.Item} {v : Value}
      (hitem : IsItemAt es room fs item) (hv : Value.under? "name" fs = some v) :
      IsNameAt es room v item.name
  | usedWith {fs gs : List (Value × Value)} {item : Game.Item} {w : Game.UsedWith} {v : Value}
      (hitem : IsItemAt es room fs item) (hw : IsUsedWithAt fs item gs w)
      (hv : Value.under? "name" gs = some v) : IsNameAt es room v w.name

/-- An item of the room is the one that is written at its place. -/
lemma IsRoomOf.isItemOf (hroom : IsRoomOf render es body room) (h : IsItemAt es room fs item) :
    IsItemOf render fs item := by
  obtain ⟨kind, vs, u, hvs, hu, hmem⟩ := h
  obtain ⟨vs', hvs', hitems⟩ := hroom.items kind
  obtain rfl := hvs'.unique hvs
  obtain ⟨fs', hfs', hitem⟩ := List.forall₂_zip hitems hmem
  obtain rfl := Option.some.inj (hu.symm.trans hfs')
  exact hitem

/-- A used-with entry of the item is the one that is written at its place. -/
lemma IsItemOf.isUsedWithOf (hitem : IsItemOf render fs item) (h : IsUsedWithAt fs item gs w) :
    IsUsedWithOf render gs w := by
  obtain ⟨vs, u, hvs, hu, hmem⟩ := h
  obtain ⟨vs', hvs', husedWith⟩ := hitem.usedWith
  obtain rfl := hvs'.unique hvs
  obtain ⟨gs', hgs', hw⟩ := List.forall₂_zip husedWith hmem
  obtain rfl := Option.some.inj (hu.symm.trans hgs')
  exact hw

lemma decode_of_reads {key : String} (h : Reads .name key es (some s))
    (hv : Value.under? key es = some v) : Decoder.name v = .ok s := by
  rw [Reads, hv, Option.getD_some] at h
  exact Decoder.optional_eq_ok h s rfl

/-- A name is read from the value in its place. -/
theorem IsRoomOf.name_eq (hroom : IsRoomOf render es body room) (h : IsNameAt es room v s) :
    Decoder.name v = .ok s := by
  cases h with
  | @exit d _ _ hv hs => exact decode_of_reads (hs ▸ hroom.exits d) hv
  | item hitem hv => exact decode_of_reads (hroom.isItemOf hitem).name hv
  | usedWith hitem hw hv =>
    exact decode_of_reads ((hroom.isItemOf hitem).isUsedWithOf hw).name hv

/-! ### Integers as names -/

/-- Integers name files. -/
lemma isFileName_toString (n : Int) : IsFileName (toString n ++ "." ++ "md") := by
  have hlength : (toString n ++ "." ++ "md").length = (toString n).length + 3 := by
    rw [String.length_append, String.length_append]
    rfl
  have hne : ∀ short : String, short.length < 3 → toString n ++ "." ++ "md" ≠ short := by
    rintro short hshort rfl
    omega
  refine ⟨?_, hne _ (by decide), ?_⟩
  · rw [isHere, Bool.or_eq_false_iff, beq_eq_false_iff_ne, beq_eq_false_iff_ne]
    exact ⟨hne _ (by decide), hne _ (by decide)⟩
  · rw [String.toList_append, String.toList_append, List.mem_append, List.mem_append]
    rintro ((hmem | hmem) | hmem)
    · exact absurd (isDigit_or_minus_of_mem_toString hmem) (by decide)
    · exact absurd hmem (by decide)
    · exact absurd hmem (by decide)

lemma stem_toString (dir : String) (n : Int) :
    stem (join dir (toString n ++ "." ++ "md")) = toString n := by
  rw [stem_join dir (isFileName_toString n),
    stem_append (isFileName_toString n) (toString_ne_empty n) (by decide)]

/-- The integers that can be written are those that fit into 64 bits, with or without a sign. One
that stands in the place of a name is stored as its canonical decimal, if it fits into 64 bits with a
sign, so different ones do not become the same name. The file that is named by such an integer has a
stem that is read as the integer when it is written without quotes, and an exit with the integer
leads there. A larger integer is rounded to a floating point number first. -/
theorem integer_names_of_read {text : List Char} (h : (read render name text).result = .ok room) :
    (∀ n, (∃ s, plainValue s = some (.integer n)) ↔ fitsWord64 n = true) ∧
    ∃ es body, Holds text es body ∧
      (∀ n s, IsNameAt es room (.integer n) s →
        (fitsInt64 n = true → s = toString n) ∧
        (fitsInt64 n = false → s = (Binary64.ofInt n).toPositional)) ∧
      (∀ m n s, fitsInt64 m = true → fitsInt64 n = true → IsNameAt es room (.integer m) s →
        IsNameAt es room (.integer n) s → m = n) ∧
      ∀ n dir, fitsInt64 n = true →
        plainValue (stem (join dir (toString n ++ "." ++ "md"))) = some (.integer n) ∧
        ∀ d : Game.Direction, Value.under? d.name es = some (.integer n) →
          room.exits.get d = some (stem (join dir (toString n ++ "." ++ "md"))) := by
  obtain ⟨es, body, hholds, hread⟩ := exists_holds_of_read h
  have hroom := isRoomOf_of_readEntries hread
  refine ⟨fun n => exists_plainValue_eq_integer_iff, es, body, hholds, ?_, ?_, ?_⟩
  · intro n s hs
    have hname := hroom.name_eq hs
    rw [Decoder.name, Except.ok.injEq] at hname
    refine ⟨fun hn => ?_, fun hn => ?_⟩
    · rw [← hname, if_pos hn]
    · rw [← hname, if_neg (by rw [hn]; decide)]
  · intro m n s hm hn hs hs'
    exact Decoder.name_integer_injective hm hn ((hroom.name_eq hs).trans (hroom.name_eq hs').symm)
  · intro n dir hn
    rw [stem_toString]
    refine ⟨plainValue_toString (fitsWord64_of_fitsInt64 hn), fun d hv => ?_⟩
    have hname : Reads .name d.name es (some (toString n)) := by
      rw [Reads, hv]
      exact congrArg (some <$> ·) (Decoder.name_integer_of_fitsInt64 hn)
    exact hname.unique (hroom.exits d)

/-- An exit to the room of the file `2.md`. -/
theorem integer_names_of_read_two :
    let text := "\n".intercalate ["---", "north: 2", "---", "x"]
    ∃ room es body, (read id "hall" text.toList).result = .ok room ∧ Holds text.toList es body ∧
      Value.under? "north" es = some (.integer 2) ∧
      room.exits.get .north = some (stem "rooms/2.md") := by
  intro text
  have hread : (read id "hall" text.toList).result =
      .ok { exits := { north := some "2" }, description := "x" } := by decide +kernel
  obtain ⟨-, es, body, hholds, -, -, hfiles⟩ := integer_names_of_read hread
  obtain ⟨parts, hparts, hes, -⟩ := id hholds
  have hnorth : Value.under? "north" es = some (.integer 2) := by
    have hsplit : split text.toList = some ⟨"north: 2\n".toList, ['x']⟩ := by decide +kernel
    obtain rfl := Option.some.inj (hparts.symm.trans hsplit)
    have htwo : (metadataEntries "north: 2\n".toList).toOption.bind
        (fun es => (Value.under? "north" es).bind Value.integer?) = some 2 := by decide +kernel
    rw [hes, Except.toOption, Option.bind_some] at htwo
    obtain ⟨v, hv, htwo⟩ := Option.bind_eq_some_iff.1 htwo
    rwa [Value.integer?_eq_some_iff.1 htwo] at hv
  obtain ⟨-, hexit⟩ := hfiles 2 "rooms" (by decide)
  exact ⟨_, es, body, hread, hholds, hnorth, hexit .north hnorth⟩

/-- Above the range of 64 bits with a sign, an exit does not have the name that was written, and
different integers become the same name. -/
theorem integer_names_collide :
    let text (n : Int) := ("\n".intercalate ["---", "north: " ++ toString n, "---", "Hall."]).toList
    fitsWord64 18446744073709551614 = true ∧ fitsWord64 18446744073709551615 = true ∧
    plainValue (toString (18446744073709551615 : Int)) = some (.integer 18446744073709551615) ∧
    ∃ room, (read (Markdown.render {}) "origin" (text 18446744073709551614)).result = .ok room ∧
      (read (Markdown.render {}) "origin" (text 18446744073709551615)).result = .ok room ∧
      room.exits.get .north = some "18446744073709552000" ∧
      room.exits.get .north ≠ some (toString (18446744073709551615 : Int)) := by
  intro text
  let room : Game.Room :=
    { exits := { north := some "18446744073709552000" }, description := "<p>Hall.</p>" }
  exact ⟨by decide, by decide, plainValue_toString (by decide), room, by decide +kernel,
    by decide +kernel, rfl, by decide⟩

end Adventure.RoomFile
