import Adventure.Proofs.Draft.Amount
import Adventure.Proofs.Game.RoundTrip
import Adventure.Proofs.Json.Sparse

/-!
# Defaults

Two places fill in what an author leaves out: a draft that compiles, and the reader of game data.
They fill in the same. An object with nothing but the fields that were written is read as the record
to which the draft compiles.

* `UsedWith.only`, `Item.only`, `Items.only`, `Room.only` : the records with some of their fields,
  and otherwise blank.
* `Draft.decode_eq_of_isReduced` : what is left out of a draft may be left out of JSON.
-/

namespace Adventure.Game

open Json

variable {s s' : List String}

/-! ### Records with some of their fields -/

/-- The entry with the fields of these names, and otherwise blank. -/
def UsedWith.only (u : UsedWith) (names : List String) : UsedWith where
  name := if "name" ∈ names then u.name else shape.blank.name
  effectMessage := if "effect_message" ∈ names then u.effectMessage else shape.blank.effectMessage
  consumesSubject :=
    if "consumes_subject" ∈ names then u.consumesSubject else shape.blank.consumesSubject
  consumesObject :=
    if "consumes_object" ∈ names then u.consumesObject else shape.blank.consumesObject
  actions := if "actions" ∈ names then u.actions else shape.blank.actions

def Item.only (i : Item) (names : List String) : Item where
  name := if "name" ∈ names then i.name else shape.blank.name
  description := if "description" ∈ names then i.description else shape.blank.description
  amount := if "amount" ∈ names then i.amount else shape.blank.amount
  visible := if "visible" ∈ names then i.visible else shape.blank.visible
  effect := if "effect" ∈ names then i.effect else shape.blank.effect
  usedWith := if "used_with" ∈ names then i.usedWith else shape.blank.usedWith

def Items.only (i : Items) (names : List String) : Items where
  tangible := if "tangible" ∈ names then i.tangible else shape.blank.tangible
  intangible := if "intangible" ∈ names then i.intangible else shape.blank.intangible

def Room.only (r : Room) (names : List String) : Room where
  exits := .ofFn fun d => if d.name ∈ names then r.exits.get d else shape.blank.exits.get d
  description := if "description" ∈ names then r.description else shape.blank.description
  items := if "items" ∈ names then r.items else shape.blank.items

/-- It does not matter in which order the names are listed, nor how often. -/
lemma UsedWith.only_congr (u : UsedWith) (h : ∀ n, n ∈ s ↔ n ∈ s') : u.only s = u.only s' := by
  simp only [only, h]

lemma Item.only_congr (i : Item) (h : ∀ n, n ∈ s ↔ n ∈ s') : i.only s = i.only s' := by
  simp only [only, h]

lemma Items.only_congr (i : Items) (h : ∀ n, n ∈ s ↔ n ∈ s') : i.only s = i.only s' := by
  simp only [only, h]

lemma Room.only_congr (r : Room) (h : ∀ n, n ∈ s ↔ n ∈ s') : r.only s = r.only s' := by
  simp only [only, h]

lemma UsedWith.only_names (u : UsedWith) : u.only (shape.fields.map RecordField.name) = u := by
  simp [only, shape, requiredField, optionalField]

lemma Item.only_names (i : Item) : i.only (shape.fields.map RecordField.name) = i := by
  simp [only, shape, requiredField, optionalField]

lemma Items.only_names (i : Items) : i.only (shape.fields.map RecordField.name) = i := by
  simp [only, shape, optionalField]

lemma Room.only_names (r : Room) : r.only (shape.fields.map RecordField.name) = r := by
  have hexits : ∀ d : Direction, d.name ∈ shape.fields.map RecordField.name := by
    intro d
    cases d <;> simp [shape, Direction.all, Direction.name, optionalField]
  simp only [only, hexits, if_true, Exits.ofFn_get]
  simp [shape, requiredField, optionalField]

/-! ### Exits -/

lemma Direction.name_injective : Function.Injective name := by
  intro d d' h
  cases d <;> cases d' <;> simp_all [name]

@[simp] lemma Direction.name_ne_description (d : Direction) : d.name ≠ "description" := by
  cases d <;> decide

@[simp] lemma Direction.name_ne_items (d : Direction) : d.name ≠ "items" := by
  cases d <;> decide

lemma Exits.set_get (e : Exits) (d : Direction) : e.set d (e.get d) = e := by
  refine Eq.trans ?_ e.ofFn_get
  refine congrArg ofFn (funext fun d' => ?_)
  split_ifs with h
  · rw [h]
  · rfl

/-- One name more in front means one exit more. -/
lemma Room.only_name_cons (r : Room) (d : Direction) (names : List String) :
    r.only (d.name :: names) =
      { r.only names with exits := (r.only names).exits.set d (r.exits.get d) } := by
  have hexits : ∀ d' : Direction, (if d'.name ∈ d.name :: names then r.exits.get d'
      else shape.blank.exits.get d') = if d' = d then r.exits.get d
        else if d'.name ∈ names then r.exits.get d' else shape.blank.exits.get d' := by
    intro d'
    by_cases h : d' = d
    · simp [h]
    · simp [h, Direction.name_injective.eq_iff]
  simp only [only, Exits.set, Exits.get_ofFn, hexits]
  simp [d.name_ne_description.symm, d.name_ne_items.symm]

/-- A room without an exit in a direction is blank there. -/
lemma Room.only_name_cons_of_none {r : Room} {d : Direction} (h : r.exits.get d = none)
    (names : List String) : r.only (d.name :: names) = r.only names := by
  have hblank : r.exits.get d = (r.only names).exits.get d := by
    rw [only, Exits.get_ofFn, h]
    cases d <;> simp [shape, Exits.get]
  rw [only_name_cons, hblank, Exits.set_get]

/-! ### Values that may be missing -/

def textValue (text : Option String) : Option Reading :=
  text.map fun t => .string (some t)

def booleanValue (b : Option Bool) : Option Reading :=
  b.map .boolean

/-- A list, which may be left out if it is empty. -/
def IsListValue {α : Type} (R : α → Reading → Prop) (as : List α) : Option Reading → Prop
  | none   => as = []
  | some v => ∃ vs, v = .array vs true ∧ List.Forall₂ R as vs

section Fits

variable {α β : Type} {fill : List String → α} {name : String}

/-- A field with a text may be left out if there is no text. -/
lemma fits_textValue {text : Option String} {set : α → Option String → α}
    (hset : ∀ seen, set (fill seen) text = fill (name :: seen))
    (hnone : text = none → ∀ seen, fill (name :: seen) = fill seen) :
    Shape.Fits fill (optionalField name (.optional .string) set) (textValue text) := by
  refine Shape.fits_of_optional _ ?_ hset fun h => hnone (Option.map_eq_none_iff.1 h)
  intro v hv
  obtain ⟨t, rfl, rfl⟩ := Option.map_eq_some_iff.1 hv
  rfl

/-- A field with a truth value may be left out if it is the default. -/
lemma fits_booleanValue (default : Bool) {b : Option Bool} {set : α → Bool → α}
    (hset : ∀ seen, set (fill seen) (b.getD default) = fill (name :: seen))
    (hnone : b.getD default = default → ∀ seen, fill (name :: seen) = fill seen) :
    Shape.Fits fill (optionalField name .boolean set) (booleanValue b) := by
  refine Shape.fits_of_optional _ ?_ hset fun h => hnone ?_
  · intro v hv
    obtain ⟨t, rfl, rfl⟩ := Option.map_eq_some_iff.1 hv
    rfl
  · rw [Option.map_eq_none_iff.1 h, Option.getD_none]

/-- A field with a list may be left out if the list is empty. -/
lemma fits_listValue {R : β → Reading → Prop} {bs : List β} {value : Option Reading}
    {decode : Decoder β} {set : α → List β → α} (hvalue : IsListValue R bs value)
    (hdecode : ∀ b v, R b v → decode v = .ok b)
    (hset : ∀ seen, set (fill seen) bs = fill (name :: seen))
    (hnil : bs = [] → ∀ seen, fill (name :: seen) = fill seen) :
    Shape.Fits fill (optionalField name (.list decode) set) value := by
  refine Shape.fits_of_optional _ ?_ hset ?_
  · rintro _ rfl
    obtain ⟨vs, rfl, hvs⟩ := hvalue
    have hmap : vs.mapM decode = .ok bs := mapM_eq_ok_iff.2 (hvs.flip.imp fun v b => hdecode b v)
    rw [Decoder.list, hmap]
    rfl
  · rintro rfl
    exact hnil hvalue

end Fits

end Adventure.Game

namespace Adventure.Draft

open Game Json

variable {render : List Char → List Char} {v : Reading}

/-! ### Reduced objects -/

/-- The object has the fields of the used-with entry that were written. -/
def UsedWith.IsReduced (d : UsedWith) (u : Game.UsedWith) (v : Reading) : Prop :=
  ∃ actions, (actions = none ∧ d.actions = [] ∨ actions = some (.string (some u.actions))) ∧
    Game.UsedWith.shape.IsObject [textValue d.name, textValue d.effectMessage,
      booleanValue d.consumesSubject, booleanValue d.consumesObject, actions] v

/-- The object has the fields that were written of an entry which compiles to `u`. -/
def IsReducedUsedWith (render : List Char → List Char) (u : Game.UsedWith) (v : Reading) : Prop :=
  ∃ d : UsedWith, (d.compile render).result = .ok u ∧ d.IsReduced u v

/-- The description is not blank, if one was written. -/
def Item.IsDescribed (d : Item) : Prop :=
  ∀ t ∈ d.description, Text.isBlank t.toList = false

/-- The object has the fields of the item that were written. -/
def Item.IsReduced (render : List Char → List Char) (d : Item) (i : Game.Item) (v : Reading) :
    Prop :=
  ∃ usedWith, IsListValue (IsReducedUsedWith render) d.usedWith usedWith ∧
    Game.Item.shape.IsObject [textValue d.name, textValue d.description,
      d.amount.map fun _ => i.amount.toJson.toReading, booleanValue d.visible, textValue d.effect,
      usedWith] v

/-- The object has the fields that were written of an item which compiles to `i`. -/
def IsReducedItem (render : List Char → List Char) (i : Game.Item) (v : Reading) : Prop :=
  ∃ d : Item, d.compile = .ok i ∧ d.IsDescribed ∧ d.IsReduced render i v

/-- The object has the lists of items that were written. It may be left out if there are none. -/
def IsReducedItems (render : List Char → List Char) (items : Game.Items) : Option Reading → Prop
  | none   => items = {}
  | some v => ∃ tangible intangible,
      IsListValue (IsReducedItem render) items.tangible tangible ∧
      IsListValue (IsReducedItem render) items.intangible intangible ∧
      Game.Items.shape.IsObject [tangible, intangible] v

/-- The object has the fields of the room that were written. -/
def Room.IsReduced (render : List Char → List Char) (d : Room) (v : Reading) : Prop :=
  ∃ items, IsReducedItems render d.items items ∧
    Game.Room.shape.IsObject (Direction.all.map (fun e => textValue (d.exits.get e)) ++
      [some (.string (some d.description)), items]) v

/-! ### Reading -/

/-- A used-with entry with the fields that were written is decoded to what it compiles to. The
decoder has the same defaults for the others as the compiler. -/
lemma UsedWith.decode_isReduced {d : UsedWith} {u : Game.UsedWith}
    (h : (d.compile render).result = .ok u) (hv : d.IsReduced u v) :
    Game.UsedWith.shape.decode v = .ok u := by
  obtain ⟨⟨hname, -⟩, ⟨hmessage, -⟩, hsubject, hobject, hactions⟩ := compile_eq_ok_iff.1 h
  obtain ⟨actions, hgiven, hv⟩ := hv
  have hfits : List.Forall₂ (Shape.Fits u.only) Game.UsedWith.shape.fields
      [textValue d.name, textValue d.effectMessage, booleanValue d.consumesSubject,
        booleanValue d.consumesObject, actions] := by
    rw [hname, hmessage]
    -- Field by field in the order of the shape. Where a field may be left out, the value that the
    -- compiler fills in is that of a blank entry.
    refine .cons ?_ <| .cons ?_ <| .cons ?_ <| .cons ?_ <| .cons ?_ .nil
    · exact Shape.fits_some rfl fun seen => by simp [UsedWith.only]
    · exact Shape.fits_some rfl fun seen => by simp [UsedWith.only]
    · refine fits_booleanValue false (fun seen => ?_) fun hdefault seen => ?_
      · simp [UsedWith.only, hsubject]
      · simp [UsedWith.only, hsubject, hdefault, Game.UsedWith.shape]
    · refine fits_booleanValue false (fun seen => ?_) fun hdefault seen => ?_
      · simp [UsedWith.only, hobject]
      · simp [UsedWith.only, hobject, hdefault, Game.UsedWith.shape]
    · refine Shape.fits_of_optional u.actions ?_ (fun seen => by simp [UsedWith.only]) ?_
      · rintro _ rfl
        rcases hgiven with ⟨hnone, -⟩ | hsome
        · cases hnone
        · obtain rfl := Option.some.inj hsome
          rfl
      · rintro rfl seen
        have hnil : d.actions = [] := by
          rcases hgiven with ⟨-, hnil⟩ | hsome
          · exact hnil
          · cases hsome
        have hempty : u.actions = "" := by
          rw [hnil] at hactions
          exact String.toList_inj.1 (Except.ok.inj hactions).symm
        simp [UsedWith.only, hempty, Game.UsedWith.shape]
  rw [Shape.decode_of_isObject Game.UsedWith.hasDistinctNames rfl
    (fun _ _ => u.only_congr) hfits hv, u.only_names]

lemma decode_isReducedUsedWith {u : Game.UsedWith} (h : IsReducedUsedWith render u v) :
    Game.UsedWith.shape.decode v = .ok u := by
  obtain ⟨d, hd, hv⟩ := h
  exact UsedWith.decode_isReduced hd hv

/-- No amount that was written comes out as zero. -/
lemma Amount.ne_zero_of_resolve {written : Amount} {a : Game.Amount} (h : written.resolve = .ok a) :
    a ≠ .count 0 := by
  rintro rfl
  cases written with
  | integer n =>
    simp only [resolve, ofInt] at h
    split_ifs at h with hpos
    have hzero := Game.Amount.count.inj (Except.ok.inj h)
    omega
  | float x => exact absurd (isPositiveInt64_of_ofFloat h).1 (Nat.lt_irrefl 0)
  | text s => exact absurd (isPositiveInt64_of_ofText h).1 (Nat.lt_irrefl 0)

lemma decode_of_resolveAmount {name : String} {written : Option Amount} {a : Game.Amount}
    (h : resolveAmount name written = .ok a) :
    Game.Amount.decode a.toJson.toReading = .ok a := by
  apply Game.Amount.decode_toJson_of_ne
  cases written with
  | none =>
    obtain rfl := Except.ok.inj h
    decide
  | some w => exact Amount.ne_zero_of_resolve (mapError_eq_ok_iff.1 h)

/-- An item with the fields that were written is decoded to what it compiles to. The decoder has the
same defaults for the others as the compiler. -/
lemma Item.decode_isReduced {d : Item} {i : Game.Item} (h : d.compile = .ok i)
    (hdescribed : d.IsDescribed) (hv : d.IsReduced render i v) :
    Game.Item.shape.decode v = .ok i := by
  obtain ⟨⟨hname, -⟩, hvisible, hdescription, -, hamount, heffect, husedWith⟩ :=
    compile_eq_ok_iff.1 h
  obtain ⟨usedWith, hlist, hv⟩ := hv
  have hfits : List.Forall₂ (Shape.Fits i.only) Game.Item.shape.fields
      [textValue d.name, textValue d.description, d.amount.map fun _ => i.amount.toJson.toReading,
        booleanValue d.visible, textValue d.effect, usedWith] := by
    -- The compiler drops a blank description, but none was written.
    have hwritten : d.description = i.description := by
      rw [hdescription]
      cases htext : d.description with
      | none => rfl
      | some t => exact (nonBlank_eq_some_iff.2 ⟨rfl, hdescribed t htext⟩).symm
    rw [hname, hwritten, ← heffect]
    refine .cons ?_ <| .cons ?_ <| .cons ?_ <| .cons ?_ <| .cons ?_ <| .cons ?_ .nil
    · exact Shape.fits_some rfl fun seen => by simp [Item.only]
    · refine fits_textValue (fun seen => by simp [Item.only]) fun hnone seen => ?_
      simp [Item.only, hnone, Game.Item.shape]
    · refine Shape.fits_of_optional i.amount ?_ (fun seen => by simp [Item.only])
        fun hnone seen => ?_
      · intro v hv
        obtain ⟨-, -, rfl⟩ := Option.map_eq_some_iff.1 hv
        exact decode_of_resolveAmount hamount
      · rw [Option.map_eq_none_iff.1 hnone] at hamount
        simp [Item.only, ← Except.ok.inj hamount, Game.Item.shape]
    · refine fits_booleanValue true (fun seen => ?_) fun hdefault seen => ?_
      · simp [Item.only, hvisible]
      · simp [Item.only, hvisible, hdefault, Game.Item.shape]
    · refine fits_textValue (fun seen => by simp [Item.only]) fun hnone seen => ?_
      simp [Item.only, hnone, Game.Item.shape]
    · refine fits_listValue (husedWith ▸ hlist) (fun _ _ => decode_isReducedUsedWith)
        (fun seen => by simp [Item.only]) fun hnil seen => ?_
      simp [Item.only, hnil, Game.Item.shape]
  rw [Shape.decode_of_isObject Game.Item.hasDistinctNames rfl
    (fun _ _ => i.only_congr) hfits hv, i.only_names]

lemma decode_isReducedItem {i : Game.Item} (h : IsReducedItem render i v) :
    Game.Item.shape.decode v = .ok i := by
  obtain ⟨d, hd, hdescribed, hv⟩ := h
  exact Item.decode_isReduced hd hdescribed hv

lemma decode_isReducedItems {items : Game.Items} (h : IsReducedItems render items (some v)) :
    Game.Items.shape.decode v = .ok items := by
  obtain ⟨tangible, intangible, htangible, hintangible, hv⟩ := h
  have hfits : List.Forall₂ (Shape.Fits items.only) Game.Items.shape.fields
      [tangible, intangible] := by
    refine .cons ?_ <| .cons ?_ .nil
    · refine fits_listValue htangible (fun _ _ => decode_isReducedItem)
        (fun seen => by simp [Items.only]) fun hnil seen => ?_
      simp [Items.only, hnil, Game.Items.shape]
    · refine fits_listValue hintangible (fun _ _ => decode_isReducedItem)
        (fun seen => by simp [Items.only]) fun hnil seen => ?_
      simp [Items.only, hnil, Game.Items.shape]
  rw [Shape.decode_of_isObject Game.Items.hasDistinctNames rfl
    (fun _ _ => items.only_congr) hfits hv, items.only_names]

/-- A room with the fields that were written is decoded to what it compiles to. -/
lemma Room.decode_isReduced {d : Room} {r : Game.Room} (h : d.compile = .ok r)
    (hv : d.IsReduced render v) : Game.Room.shape.decode v = .ok r := by
  obtain ⟨-, -, hr⟩ := compile_eq_ok_iff.1 h
  obtain ⟨items, hitems, hv⟩ := hv
  have hfits : List.Forall₂ (Shape.Fits r.only) Game.Room.shape.fields
      (Direction.all.map (fun e => textValue (d.exits.get e)) ++
        [some (.string (some d.description)), items]) := by
    refine List.rel_append ?_ (.cons ?_ <| .cons ?_ .nil)
    · -- Each direction is a field of its own.
      rw [List.forall₂_map_left_iff, List.forall₂_map_right_iff, List.forall₂_same]
      intro e _
      refine fits_textValue (fun seen => ?_) fun hnone seen => ?_
      · simp only [Room.only_name_cons, hr]
      · exact Room.only_name_cons_of_none (by rw [hr]; exact hnone) seen
    · exact Shape.fits_some rfl fun seen => by simp [Room.only, hr]
    · refine Shape.fits_of_optional d.items ?_ (fun seen => by simp [Room.only, hr]) ?_
      · rintro v rfl
        exact decode_isReducedItems hitems
      · rintro rfl seen
        have hempty : d.items = {} := hitems
        simp [Room.only, hr, hempty, Game.Room.shape]
  rw [Shape.decode_of_isObject Game.Room.hasDistinctNames rfl
    (fun _ _ => r.only_congr) hfits hv, r.only_names]

/-- An object with the fields that were written, and with keys of which the record knows nothing, is
read as the record to which the draft compiles: a used-with entry, an item or a room. -/
theorem decode_eq_of_isReduced (render : List Char → List Char) :
    (∀ (d : UsedWith) (u : Game.UsedWith) (v : Reading),
      (d.compile render).result = .ok u → d.IsReduced u v →
      Game.UsedWith.shape.decode v = .ok u) ∧
    (∀ (d : Item) (i : Game.Item) (v : Reading),
      d.compile = .ok i → d.IsDescribed → d.IsReduced render i v →
      Game.Item.shape.decode v = .ok i) ∧
    ∀ (d : Room) (r : Game.Room) (v : Reading),
      d.compile = .ok r → d.IsReduced render v → Game.Room.shape.decode v = .ok r :=
  ⟨fun _ _ _ => UsedWith.decode_isReduced, fun _ _ _ => Item.decode_isReduced,
    fun _ _ _ => Room.decode_isReduced⟩

/-- A room with an item that can be used with another, everything in another order than the fields
of the records. -/
theorem decode_eq_of_isReduced_hall :
    let text (t : String) : Reading := .string (some t)
    let door : Reading := .object [(some "consumes_subject", .boolean true),
      (some "effect_message", text "Click."), (some "name", text "door")] true
    let key : Reading := .object [(some "note", .null), (some "used_with", .array [door] true),
      (some "description", text "Rusty."), (some "name", text "key")] true
    let items : Reading := .object [(some "tangible", .array [key] true)] true
    let hall : Reading := .object [(some "items", items), (some "description", text "Dark."),
      (some "down", text "cellar")] true
    let usedWith : Game.UsedWith :=
      { name := "door", effectMessage := "Click.", consumesSubject := true }
    let item : Game.Item := { name := "key", description := some "Rusty.", usedWith := [usedWith] }
    Game.Room.shape.decode hall = .ok
      { exits := { down := some "cellar" }, description := "Dark.", items := ⟨[item], []⟩ } := by
  intro text door key items hall usedWith item
  have hdoor : IsReducedUsedWith id usedWith door :=
    ⟨{ name := some "door", effectMessage := some "Click.", consumesSubject := some true }, rfl,
      none, .inl ⟨rfl, rfl⟩, _, [], rfl, (List.reverse_perm _).symm, List.forall_mem_nil _⟩
  have hkey : IsReducedItem id item key := by
    refine ⟨{ name := some "key", description := some "Rusty.", usedWith := [usedWith] }, rfl, ?_,
      some (.array [door] true), ⟨[door], rfl, .cons hdoor .nil⟩, _, [("note", .null)], rfl,
      (List.reverse_perm _).symm, List.forall_mem_singleton.2 ⟨rfl, rfl⟩⟩
    rintro _ ⟨⟩
    decide
  have hitems : IsReducedItems id ⟨[item], []⟩ (some items) :=
    ⟨some (.array [key] true), none, ⟨[key], rfl, .cons hkey .nil⟩, rfl, _, [], rfl, .refl _,
      List.forall_mem_nil _⟩
  let room : Room :=
    { name := "hall", description := "Dark.", exits := { down := some "cellar" }
      items := ⟨[item], []⟩ }
  exact (decode_eq_of_isReduced id).2.2 room _ hall (by decide +kernel)
    ⟨_, hitems, _, [], rfl, (List.reverse_perm _).symm, List.forall_mem_nil _⟩

end Adventure.Draft
