import Adventure.Proofs.RoomFile.Known

/-!
# The content of a room file

A room says what its metadata and its body say: every entry of a list of items is an item of the
room, in the same order, with what is written under its keys, and so is every used-with entry.

* `isUsedWithOf_of_read`, `isItemOf_of_read`, `isRoomOf_of_readEntries` : what is read is what is
  written.
* `isRoomOf_of_read` : a room is that of its file, whatever stands under other keys.
-/

namespace Adventure.RoomFile

open Yaml (Value Decoder Reads)

variable {render : Render} {place : ItemPlace} {name : String} {es : List (Value × Value)}

/-! ### What is written -/

/-- The statements are those of the actions that are listed. -/
def IsActionsOf (render : Render) (es : List (Value × Value)) (statements : String) : Prop :=
  ∃ actions : List String, IsList (Value.under? "actions" es) (actions.map .string) ∧
    Action.compileAll render (actions.map String.toList) = .ok statements.toList

/-- The used-with entry that is written. -/
structure IsUsedWithOf (render : Render) (es : List (Value × Value)) (w : Game.UsedWith) : Prop where
  name : Reads .name "name" es (some w.name)
  effectMessage : ∃ text, Reads .string "effect_message" es (some text) ∧
    w.effectMessage = renderString render text
  consumesSubject : ∃ b, Reads .boolean "consumes_subject" es b ∧ w.consumesSubject = b.getD false
  consumesObject : ∃ b, Reads .boolean "consumes_object" es b ∧ w.consumesObject = b.getD false
  actions : IsActionsOf render es w.actions

/-- The item that is written. A description of which nothing is left to see is none, and an amount
that is not written is one. -/
structure IsItemOf (render : Render) (es : List (Value × Value)) (item : Game.Item) : Prop where
  name : Reads .name "name" es (some item.name)
  description : ∃ text, Reads .string "description" es text ∧
    item.description = Draft.nonBlank (text.map (renderString render))
  amount : ∃ written, Reads .amount "amount" es written ∧
    Draft.resolveAmount item.name written = .ok item.amount
  visible : ∃ b, Reads .boolean "visible" es b ∧ item.visible = b.getD true
  effect : Reads .string "effect" es item.effect
  usedWith : ∃ vs, IsList (Value.under? "used_with" es) vs ∧
    List.Forall₂ (fun v w => ∃ es, v.entries? = some es ∧ IsUsedWithOf render es w) vs item.usedWith

/-- The room that is written. -/
structure IsRoomOf (render : Render) (es : List (Value × Value)) (body : List Char)
    (room : Game.Room) : Prop where
  description : room.description = String.ofList (render body)
  exits : ∀ d : Game.Direction, Reads .name d.name es (room.exits.get d)
  items : ∀ kind, ∃ vs, IsItemList kind (Value.under? "items" es) vs ∧
    List.Forall₂ (fun v item => ∃ es, v.entries? = some es ∧ IsItemOf render es item) vs
      (room.items.get kind)

/-! ### What is read -/

/-- A value of any shape is read as it is, apart from null. -/
lemma eq_of_reads_any {key : String} {v : Option Value} (h : Reads .any key es v) :
    v = none ∧ Value.under? key es = some .null ∨ v = Value.under? key es := by
  unfold Reads at h
  rcases hunder : Value.under? key es with _ | u
  · rw [hunder] at h
    exact .inr (Except.ok.inj h).symm
  · rw [hunder, Option.getD_some] at h
    cases u with
    | null => exact .inl ⟨(Except.ok.inj h).symm, rfl⟩
    | _ => exact .inr (Except.ok.inj h).symm

lemma isList_of_reads {key : String} {v : Option Value} {vs : List Value} (h : Reads .any key es v)
    (hvs : IsList v vs) : IsList (Value.under? key es) vs := by
  rcases eq_of_reads_any h with ⟨rfl, hnull⟩ | rfl
  · cases hvs
    exact hnull ▸ .null
  · exact hvs

lemma isItemList_of_reads {kind : Game.ItemKind} {key : String} {v : Option Value}
    {vs : List Value} (h : Reads .any key es v) (hvs : IsItemList kind v vs) :
    IsItemList kind (Value.under? key es) vs := by
  rcases eq_of_reads_any h with ⟨rfl, hnull⟩ | rfl
  · cases hvs
    exact hnull ▸ .null
  · exact hvs

theorem isUsedWithOf_of_read {item : String} {v : Value} {w : Game.UsedWith}
    (h : (readUsedWith render place item v).result = .ok w) :
    ∃ es, v.entries? = some es ∧ IsUsedWithOf render es w := by
  obtain ⟨es, u, actions, hes, hu, hactions, hcompile⟩ := exists_of_readUsedWith h
  obtain ⟨hname, hmessage, hsubject, hobject, hrun⟩ := UsedWithEntry.reads hu
  obtain ⟨⟨hn, -⟩, ⟨hm, -⟩, hs, ho, hw⟩ := Draft.UsedWith.compile_eq_ok_iff.1 hcompile
  obtain ⟨text, htext, hm⟩ := Option.map_eq_some_iff.1 hm
  refine ⟨es, hes, ?_, ⟨text, ?_, hm.symm⟩, ⟨_, hsubject, hs⟩, ⟨_, hobject, ho⟩, actions, ?_, hw⟩
  · rwa [← show u.name = some w.name from hn]
  · rwa [← htext]
  · exact isList_of_reads hrun hactions

theorem isItemOf_of_read {v : Value} {item : Game.Item}
    (h : (readItem render place v).result = .ok item) :
    ∃ es, v.entries? = some es ∧ IsItemOf render es item := by
  obtain ⟨es, entry, vs, usedWith, hes, hentry, hvs, husedWith, hcompile⟩ := exists_of_readItem h
  obtain ⟨hname, hdescription, hamount, hvisible, heffect, hlist⟩ := ItemEntry.reads hentry
  obtain ⟨⟨hn, -⟩, hv, hd, -, ha, he, hu⟩ := Draft.Item.compile_eq_ok_iff.1 hcompile
  obtain rfl : item.usedWith = usedWith := hu
  refine ⟨es, hes, ?_, ⟨_, hdescription, hd⟩, ⟨_, hamount, ha⟩, ⟨_, hvisible, hv⟩, ?_, vs,
    isList_of_reads hlist hvs, ?_⟩
  · rwa [← show entry.name = some item.name from hn]
  · rwa [← show item.effect = entry.effect from he] at heffect
  · exact husedWith.imp fun v w hw => isUsedWithOf_of_read hw

theorem isRoomOf_of_readEntries {body : List Char} {room : Game.Room}
    (h : (readEntries render name es body).result = .ok room) : IsRoomOf render es body room := by
  obtain ⟨metadata, hmetadata, h⟩ := Logged.result_bind_eq_ok_iff.1 h
  obtain ⟨hexits, hlists⟩ := Metadata.reads
    (mapError_eq_ok_iff.1 (Logged.result_check_eq_ok_iff.1 hmetadata))
  obtain ⟨items, hitems, hcompile⟩ := exists_of_readRoom h
  obtain ⟨-, -, rfl⟩ := Draft.Room.compile_eq_ok_iff.1 hcompile
  refine ⟨rfl, hexits, fun kind => ?_⟩
  obtain ⟨vs, hvs, hkind⟩ := forall₂_of_readItems hitems kind
  exact ⟨vs, isItemList_of_reads hlists hvs, hkind.imp fun v item hitem => isItemOf_of_read hitem⟩

/-- A room is what its file holds. Every entry of a list is an item or a used-with entry, in order,
and every field is read from the value under its key. A file that holds the same apart from entries
under keys that the format does not know is read in the same way. -/
theorem isRoomOf_of_read {text : List Char} {room : Game.Room}
    (h : (read render name text).result = .ok room) :
    ∃ es body, Holds text es body ∧ IsRoomOf render es body room ∧
      ∀ text' es', Holds text' es' body → knownRoom es' = knownRoom es →
        read render name text' = read render name text := by
  obtain ⟨es, body, hholds, hread⟩ := exists_holds_of_read h
  refine ⟨es, body, hholds, isRoomOf_of_readEntries hread, ?_⟩
  intro text' es' hholds' hknown
  rw [read_of_holds hholds, read_of_holds hholds', ← readEntries_knownRoom, hknown,
    readEntries_knownRoom]

/-- A coin with unknown keys beside it and in it, and a blank list of intangible items. -/
theorem isRoomOf_of_read_coin :
    let text := "\n".intercalate ["---", "mood: calm", "up: 2", "items:", " tangible:",
      " - name: coin", "   mass: 3", "   description: x", "   amount: 2.0", "   used_with:",
      "   - name: slot", "     effect_message: y", "     mass: 3", " intangible:", "---", "z"]
    let slot : Game.UsedWith := { name := "slot", effectMessage := "y" }
    let coin : Game.Item :=
      { name := "coin", description := some "x", amount := .count 2, usedWith := [slot] }
    ∃ es body, Holds text.toList es body ∧
      IsRoomOf id es body
        { exits := { up := some "2" }, description := "z", items := { tangible := [coin] } } := by
  intro text slot coin
  have hread : (read id "hall" text.toList).result =
      .ok { exits := { up := some "2" }, description := "z", items := { tangible := [coin] } } := by
    decide +kernel
  obtain ⟨es, body, hholds, hroom, -⟩ := isRoomOf_of_read hread
  exact ⟨es, body, hholds, hroom⟩

end Adventure.RoomFile
