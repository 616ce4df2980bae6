import Adventure.Proofs.Draft.Compile
import Adventure.RoomFile.Reading

/-!
# What a room file is read as

The parts of a room that is read, each traced back to the entry of the metadata from which it comes.

* `exists_of_readUsedWith`, `exists_of_readItem` : a used-with entry or an item is compiled from the
  draft that its entry makes.
* `forall₂_of_readItems` : the items of a room are read from the entries of a list, in order.
-/

namespace Adventure.RoomFile

open Yaml (Value)

variable {render : Render} {place : ItemPlace} {name : String}

/-! ### Lists -/

/-- A list of values. It may be missing, or null. -/
inductive IsList : Option Value → List Value → Prop
  | missing : IsList none []
  | null : IsList (some .null) []
  | sequence {vs : List Value} : IsList (some (.sequence vs)) vs

/-- The items of a kind, listed under the name of the kind. The mapping of both lists may be
missing, or null. -/
inductive IsItemList (kind : Game.ItemKind) : Option Value → List Value → Prop
  | missing : IsItemList kind none []
  | null : IsItemList kind (some .null) []
  | mapping {es : List (Value × Value)} {vs : List Value}
      (h : IsList (Value.lookup kind.name es) vs) : IsItemList kind (some (.mapping es)) vs

lemma IsList.unique {v : Option Value} {vs vs' : List Value} (h : IsList v vs)
    (h' : IsList v vs') : vs' = vs := by
  cases h <;> cases h' <;> rfl

lemma IsItemList.unique {kind : Game.ItemKind} {v : Option Value} {vs vs' : List Value}
    (h : IsItemList kind v vs) (h' : IsItemList kind v vs') : vs' = vs := by
  cases h with
  | mapping h =>
    cases h' with
    | mapping h' => exact h.unique h'
  | _ =>
    cases h'
    rfl

/-- Elements are read from a list. There are none in what is missing or null. -/
lemma elements_eq_ok_iff {ε : Type} {onOther : ε} {v : Option Value} {vs : List Value} :
    elements onOther v = .ok vs ↔ IsList v vs := by
  constructor
  · intro h
    unfold elements at h
    split at h
    · obtain rfl := Except.ok.inj h
      exact .missing
    · obtain rfl := Except.ok.inj h
      exact .null
    · obtain rfl := Except.ok.inj h
      exact .sequence
    · cases h
  · rintro (_ | _ | _) <;> rfl

/-! ### Entries -/

lemma actionText_eq_ok_iff {v : Value} {text : String} :
    actionText name v = .ok text ↔ v = .string text := by
  cases v <;> simp [actionText]

lemma actionTexts_eq_ok_iff {u : UsedWithEntry} {texts : List String} :
    actionTexts u = .ok texts ↔ IsList u.actions (texts.map .string) := by
  have htexts : ∀ vs : List Value, vs.mapM (actionText (u.name.getD "")) = .ok texts ↔
      vs = texts.map .string := by
    intro vs
    simp only [mapM_eq_ok_iff, actionText_eq_ok_iff]
    rw [← List.forall₂_map_right_iff (R := Eq), List.forall₂_eq_eq_eq]
  simp [actionTexts, bind_eq_ok_iff, elements_eq_ok_iff, htexts]

/-- A used-with entry is compiled from the draft that its entry makes. -/
theorem exists_of_readUsedWith {item : String} {v : Value} {w : Game.UsedWith}
    (h : (readUsedWith render place item v).result = .ok w) :
    ∃ es u actions, v.entries? = some es ∧ UsedWithEntry.ofEntries es = .ok u ∧
      IsList u.actions (actions.map .string) ∧
      (Draft.UsedWith.compile render
        { name := u.name, effectMessage := u.effectMessage.map (renderString render)
          consumesSubject := u.consumesSubject, consumesObject := u.consumesObject
          actions }).result = .ok w := by
  unfold readUsedWith at h
  split at h
  · cases h
  · next es hes =>
    obtain ⟨u, hu, h⟩ := Logged.result_bind_eq_ok_iff.1 h
    obtain ⟨actions, hactions, h⟩ := Logged.result_bind_eq_ok_iff.1 h
    exact ⟨es, u, actions, hes, Logged.result_check_eq_ok_iff.1 hu,
      actionTexts_eq_ok_iff.1 (Logged.result_check_eq_ok_iff.1 hactions),
      Logged.result_mapError_eq_ok_iff.1 h⟩

/-- An item is compiled from the draft that its entry makes. -/
theorem exists_of_readItem {v : Value} {item : Game.Item}
    (h : (readItem render place v).result = .ok item) :
    ∃ es entry vs usedWith, v.entries? = some es ∧ ItemEntry.ofEntries es = .ok entry ∧
      IsList entry.usedWith vs ∧
      List.Forall₂
        (fun v w => (readUsedWith render place (entry.name.getD "") v).result = .ok w) vs usedWith ∧
      Draft.Item.compile
        { name := entry.name, description := entry.description.map (renderString render)
          amount := entry.amount, visible := entry.visible, effect := entry.effect, usedWith } =
        .ok item := by
  unfold readItem at h
  split at h
  · cases h
  · next es hes =>
    obtain ⟨entry, hentry, h⟩ := Logged.result_bind_eq_ok_iff.1 h
    obtain ⟨vs, hvs, h⟩ := Logged.result_bind_eq_ok_iff.1 h
    obtain ⟨usedWith, husedWith, h⟩ := Logged.result_bind_eq_ok_iff.1 h
    rw [Logged.result_mapM, mapM_eq_ok_iff] at husedWith
    exact ⟨es, entry, vs, usedWith, hes, Logged.result_check_eq_ok_iff.1 hentry,
      elements_eq_ok_iff.1 hvs, husedWith, Logged.result_check_eq_ok_iff.1 h⟩

/-! ### Rooms -/

/-- The items of a kind are read element by element from the list under its name. -/
lemma forall₂_of_readItemsOf {es : List (Value × Value)} {items : List Game.Item}
    (h : (readItemsOf render place es).result = .ok items) :
    ∃ vs, IsList (Value.lookup place.kind.name es) vs ∧
      List.Forall₂ (fun v item => (readItem render place v).result = .ok item) vs items := by
  unfold readItemsOf at h
  obtain ⟨vs, hvs, h⟩ := Logged.result_bind_eq_ok_iff.1 h
  rw [Logged.result_mapM, mapM_eq_ok_iff] at h
  exact ⟨vs, elements_eq_ok_iff.1 hvs, h⟩

/-- The items of a kind are read from the entries of their list, in order. -/
theorem forall₂_of_readItems {items : Game.Items} {written : Option Value}
    (h : (readItems render name written).result = .ok items) (kind : Game.ItemKind) :
    ∃ vs, IsItemList kind written vs ∧
      List.Forall₂ (fun v item => (readItem render ⟨kind, name⟩ v).result = .ok item) vs
        (items.get kind) := by
  unfold readItems at h
  split at h
  · obtain rfl := pure_eq_ok_iff.1 h
    exact ⟨[], .missing, by cases kind <;> exact .nil⟩
  · obtain rfl := pure_eq_ok_iff.1 h
    exact ⟨[], .null, by cases kind <;> exact .nil⟩
  · obtain ⟨tangible, htangible, h⟩ := Logged.result_bind_eq_ok_iff.1 h
    obtain ⟨intangible, hintangible, h⟩ := Logged.result_bind_eq_ok_iff.1 h
    obtain rfl := pure_eq_ok_iff.1 h
    cases kind with
    | tangible =>
      obtain ⟨vs, hvs, hitems⟩ := forall₂_of_readItemsOf htangible
      exact ⟨vs, .mapping hvs, hitems⟩
    | intangible =>
      obtain ⟨vs, hvs, hitems⟩ := forall₂_of_readItemsOf hintangible
      exact ⟨vs, .mapping hvs, hitems⟩
  · cases h

/-- A room has the items and the exits of its metadata, and its body as the description. -/
theorem exists_of_readRoom {metadata : Metadata} {body : List Char} {room : Game.Room}
    (h : (readRoom render name metadata body).result = .ok room) :
    ∃ items, (readItems render name metadata.items).result = .ok items ∧
      Draft.Room.compile
        { name, description := String.ofList (render body), exits := metadata.exits, items } =
        .ok room := by
  unfold readRoom at h
  obtain ⟨items, hitems, h⟩ := Logged.result_bind_eq_ok_iff.1 h
  dsimp only at h
  obtain ⟨-, -, h⟩ := Logged.result_bind_eq_ok_iff.1 h
  exact ⟨items, hitems, Logged.result_check_eq_ok_iff.1 h⟩

lemma exists_of_read {text : List Char} {room : Game.Room}
    (h : (read render name text).result = .ok room) :
    ∃ parts metadata, split text = some parts ∧ Metadata.ofText parts.metadata = .ok metadata ∧
      (readRoom render name metadata parts.body).result = .ok room := by
  unfold read at h
  split at h
  · cases h
  · next parts hparts =>
    obtain ⟨metadata, hmetadata, h⟩ := Logged.result_bind_eq_ok_iff.1 h
    exact ⟨parts, metadata, hparts, Logged.result_check_eq_ok_iff.1 hmetadata, h⟩

end Adventure.RoomFile
