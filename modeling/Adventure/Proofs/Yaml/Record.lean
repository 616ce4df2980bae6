import Adventure.Proofs.Computation
import Adventure.Yaml.Shape

/-!
# Reading records from YAML

A field of a record comes from the value under its key, and keys without a field do not matter.

* `reads_of_decodeRecord` : a field of the record is read from the value under its key.
* `decodeRecord_knownEntries` : keys without a field do not matter.
-/

namespace Adventure.Yaml

variable {α β : Type}

/-! ### The value under a key -/

/-- The text of a key; tags do not matter. -/
def Value.text? (key : Value) : Option String :=
  match key.untag with
  | .string s => some s
  | _         => none

/-- The value under the first key with a text. -/
def Value.under? (name : String) : List (Value × Value) → Option Value
  | []           => none
  | (k, v) :: es => if k.text? = some name then some v else under? name es

/-- Under the key `name`, the entries hold what `decode` reads as `b`. A missing key counts as
null. -/
def Reads (decode : Decoder β) (name : String) (es : List (Value × Value)) (b : Option β) : Prop :=
  Decoder.optional decode ((Value.under? name es).getD .null) = .ok b

lemma Reads.unique {decode : Decoder β} {name : String} {es : List (Value × Value)}
    {b b' : Option β} (h : Reads decode name es b) (h' : Reads decode name es b') : b' = b :=
  Except.ok.inj (h'.symm.trans h)

/-- A value that is neither missing nor null is decoded. -/
lemma Decoder.optional_eq_ok {decode : Decoder β} {v : Value} {b : Option β}
    (h : Decoder.optional decode v = .ok b) : ∀ x ∈ b, decode v = .ok x := by
  unfold optional at h
  split at h
  · obtain rfl := Except.ok.inj h
    exact nofun
  · obtain ⟨y, hy, rfl⟩ := map_eq_ok_iff.1 h
    intro x hx
    obtain rfl := Option.some.inj hx
    exact hy

lemma fieldName_eq_ok_iff {key : Value} {name : String} :
    fieldName key = .ok name ↔ key.text? = some name := by
  unfold fieldName Value.text?
  cases key.untag <;> simp

/-- The field shows what is read from its value: `get` gives it if the field has the name `name`,
and otherwise the field leaves it as it is. -/
def Shows (get : α → Option β) (name : String) (decode : Decoder β) (f : RecordField α) : Prop :=
  ∀ a v b, f.put a v = .ok b →
    if f.name = name then Decoder.optional decode v = .ok (get b) else get b = get a

section Shows

variable {get : α → Option β} {name : String} {decode : Decoder β} {fields : List (RecordField α)}

@[simp] lemma ofOptional_name (set : α → Option β → α) :
    (RecordField.ofOptional name decode set).name = name := rfl

lemma shows_ofOptional_self {set : α → Option β → α} (h : ∀ a b, get (set a b) = b) :
    Shows get name decode (.ofOptional name decode set) := by
  intro a v c hc
  obtain ⟨b, hb, rfl⟩ := map_eq_ok_iff.1 hc
  rw [ofOptional_name, if_pos rfl, h]
  exact hb

lemma shows_ofOptional_of_ne {γ : Type} {name' : String} {decode' : Decoder γ}
    {set : α → Option γ → α} (hne : name' ≠ name) (h : ∀ a b, get (set a b) = get a) :
    Shows get name decode (.ofOptional name' decode' set) := by
  intro a v c hc
  obtain ⟨b, -, rfl⟩ := map_eq_ok_iff.1 hc
  rw [ofOptional_name, if_neg hne, h]

/-- A field that is set already is not set again, and a field that is not set has the value under
its key afterwards. -/
lemma putEntries_shows (hfield : ∃ f ∈ fields, f.name = name)
    (hshows : ∀ f ∈ fields, Shows get name decode f) {seen : List String} {a b : α}
    {es : List (Value × Value)} (h : putEntries fields seen a es = .ok b) :
    if name ∈ seen then get b = get a
    else match Value.under? name es with
      | none   => get b = get a
      | some v => Decoder.optional decode v = .ok (get b) := by
  induction es generalizing seen a with
  | nil =>
    obtain rfl := Except.ok.inj h
    simp [Value.under?]
  | cons e es ih =>
    obtain ⟨key, v⟩ := e
    obtain ⟨n, hn, h⟩ := bind_eq_ok_iff.1 h
    rw [fieldName_eq_ok_iff] at hn
    rw [Value.under?, hn]
    split at h
    · next hnone =>
      -- A key without a field is not that of the field `name`.
      have hne : n ≠ name := by
        rintro rfl
        obtain ⟨f, hf, hname⟩ := hfield
        exact absurd hname (by simpa using List.find?_eq_none.1 hnone f hf)
      simpa [hne] using ih h
    · next f hf =>
      have hname : f.name = n := by simpa using List.find?_some hf
      dsimp only at h
      split_ifs at h with hseen
      · obtain ⟨_, hthrow, -⟩ := bind_eq_ok_iff.1 h
        exact absurd hthrow throw_ne_ok
      · obtain ⟨c, hc, h⟩ := bind_eq_ok_iff.1 h
        have hput := hshows f (List.mem_of_find?_eq_some hf) a v c hc
        have hrest := ih h
        rw [hname] at hput
        rw [List.contains_iff_mem] at hseen
        by_cases hn : n = name
        · subst hn
          simp only [List.mem_cons, true_or, if_true] at hrest hput
          simpa [hseen, hrest] using hput
        · rw [if_neg hn] at hput
          simpa [hn, Ne.symm hn, hput] using hrest

/-- A field of a record that is read has the value under its key. -/
theorem reads_of_decodeRecord (get : α → Option β) (hfield : ∃ f ∈ fields, f.name = name)
    (hshows : ∀ f ∈ fields, Shows get name decode f) {blank a : α} {es : List (Value × Value)}
    (hblank : get blank = none) (h : decodeRecord fields blank es = .ok a) :
    Reads decode name es (get a) := by
  have hput := putEntries_shows hfield hshows h
  rw [if_neg List.not_mem_nil] at hput
  unfold Reads
  split at hput
  · next hunder => rw [hunder, hput, hblank]; rfl
  · next v hunder => rwa [hunder]

end Shows

/-! ### Keys without a field -/

/-- The key is a text, but none of the names. -/
def Value.isUnknown (names : List String) (key : Value) : Bool :=
  key.text?.any fun n => !names.contains n

/-- Without the entries under text keys that are none of the names. -/
def Value.knownEntries (names : List String) (es : List (Value × Value)) : List (Value × Value) :=
  es.filter fun e => !e.1.isUnknown names

section Known

variable {fields : List (RecordField α)}

lemma find?_eq_none_of_isUnknown {key : Value} {name : String}
    (hkey : key.isUnknown (fields.map RecordField.name) = true) (hname : key.text? = some name) :
    (fields.find? fun f => f.name == name) = none := by
  rw [List.find?_eq_none]
  intro f hf hn
  have hunknown : name ∉ fields.map RecordField.name := by
    simpa [Value.isUnknown, hname] using hkey
  rw [beq_iff_eq] at hn
  exact hunknown (hn ▸ List.mem_map_of_mem hf)

/-- Entries under keys without a field are skipped. -/
lemma putEntries_knownEntries (seen : List String) (a : α) (es : List (Value × Value)) :
    putEntries fields seen a (Value.knownEntries (fields.map RecordField.name) es) =
      putEntries fields seen a es := by
  induction es generalizing seen a with
  | nil => rfl
  | cons e es ih =>
    obtain ⟨key, v⟩ := e
    by_cases hkey : key.isUnknown (fields.map RecordField.name) = true
    · -- An unknown key is dropped on one side and skipped by the reader on the other.
      obtain ⟨name, hname⟩ : ∃ name, key.text? = some name := by
        cases h : key.text? <;> simp_all [Value.isUnknown]
      have hdrop : Value.knownEntries (fields.map RecordField.name) ((key, v) :: es) =
          Value.knownEntries (fields.map RecordField.name) es := by
        simp [Value.knownEntries, hkey]
      rw [hdrop, ih, putEntries, fieldName_eq_ok_iff.2 hname]
      simp [bind, Except.bind, find?_eq_none_of_isUnknown hkey hname]
    · have hkeep : Value.knownEntries (fields.map RecordField.name) ((key, v) :: es) =
          (key, v) :: Value.knownEntries (fields.map RecordField.name) es := by
        simp [Value.knownEntries, hkey]
      rw [hkeep, putEntries, putEntries]
      congr 1
      funext n
      split
      · exact ih seen a
      · simp only [ih]

/-- Keys without a field do not matter for the record. -/
theorem decodeRecord_knownEntries (blank : α) (es : List (Value × Value)) :
    decodeRecord fields blank (Value.knownEntries (fields.map RecordField.name) es) =
      decodeRecord fields blank es :=
  putEntries_knownEntries [] blank es

end Known

/-! ### Changes under a key -/

namespace Value

/-- With other values under the keys of a text. -/
def mapUnder (name : String) (f : Value → Value) (es : List (Value × Value)) :
    List (Value × Value) :=
  es.map fun e => if e.1.text? = some name then (e.1, f e.2) else e

/-- With other entries, if the value is a mapping, tagged or not. -/
def onEntries (f : List (Value × Value) → List (Value × Value)) : Value → Value
  | mapping es => mapping (f es)
  | tagged t v => tagged t (v.onEntries f)
  | v          => v

/-- With other elements, if the value is a sequence without a tag. -/
def onElements (f : Value → Value) : Value → Value
  | sequence vs => sequence (vs.map f)
  | v           => v

lemma entries?_onEntries (f : List (Value × Value) → List (Value × Value)) (v : Value) :
    (v.onEntries f).entries? = v.entries?.map f := by
  match v with
  | mapping es => rfl
  | tagged t v => exact entries?_onEntries f v
  | null | boolean _ | integer _ | float _ | string _ | sequence _ => rfl

lemma onEntries_of_entries?_eq_none {f : List (Value × Value) → List (Value × Value)} {v : Value}
    (h : v.entries? = none) : v.onEntries f = v := by
  match v with
  | mapping es => cases h
  | tagged t v => exact congrArg (tagged t) (onEntries_of_entries?_eq_none h)
  | null | boolean _ | integer _ | float _ | string _ | sequence _ => rfl

end Value

/-- What is null stays null, and what is not null does not become null. -/
def KeepsNull (f : Value → Value) : Prop :=
  f .null = .null ∧ ∀ v, v ≠ .null → f v ≠ .null

lemma keepsNull_onEntries (f : List (Value × Value) → List (Value × Value)) :
    KeepsNull (Value.onEntries f) := by
  refine ⟨rfl, fun v hv => ?_⟩
  cases v <;> simp_all [Value.onEntries]

lemma keepsNull_onElements (f : Value → Value) : KeepsNull (Value.onElements f) := by
  refine ⟨rfl, fun v hv => ?_⟩
  cases v <;> simp_all [Value.onElements]

/-- A change that keeps null is passed on by a field that may be null. -/
lemma KeepsNull.optional_any {f : Value → Value} (hf : KeepsNull f) (v : Value) :
    Decoder.optional Decoder.any (f v) = Option.map f <$> Decoder.optional Decoder.any v := by
  have hany : ∀ w : Value, w ≠ .null → Decoder.optional Decoder.any w = .ok (some w) := by
    intro w hw
    cases w <;> first | rfl | exact absurd rfl hw
  by_cases hv : v = .null
  · subst hv
    rw [hf.1]
    rfl
  · rw [hany v hv, hany (f v) (hf.2 v hv)]
    rfl

/-- The field reads a changed value as it reads the value, up to the change `φ` of the record. Only
the value of the field `name` is changed. -/
def Follows (name : String) (f : Value → Value) (φ : α → α) (field : RecordField α) : Prop :=
  ∀ a v, field.put (φ a) (if field.name = name then f v else v) = φ <$> field.put a v

section Follows

variable {name : String} {f : Value → Value} {φ : α → α} {fields : List (RecordField α)}

/-- A field of any value passes a change of the value on to the record. -/
lemma follows_ofOptional_self {set : α → Option Value → α} (hf : KeepsNull f)
    (h : ∀ a b, set (φ a) (b.map f) = φ (set a b)) :
    Follows name f φ (.ofOptional name Decoder.any set) := by
  intro a v
  rw [ofOptional_name, if_pos rfl]
  show set (φ a) <$> Decoder.optional Decoder.any (f v) = φ <$> set a <$> _
  rw [hf.optional_any]
  cases Decoder.optional Decoder.any v with
  | error m => rfl
  | ok b => exact congrArg Except.ok (h a b)

lemma follows_ofOptional_of_ne {name' : String} {decode : Decoder β} {set : α → Option β → α}
    (hne : name' ≠ name) (h : ∀ a b, set (φ a) b = φ (set a b)) :
    Follows name f φ (.ofOptional name' decode set) := by
  intro a v
  rw [ofOptional_name, if_neg hne]
  show set (φ a) <$> Decoder.optional decode v = φ <$> set a <$> _
  cases Decoder.optional decode v with
  | error m => rfl
  | ok b => exact congrArg Except.ok (h a b)

/-- If every field follows the change of the values under a key, so does the whole record. -/
lemma putEntries_mapUnder (hfields : ∀ g ∈ fields, Follows name f φ g) (seen : List String) (a : α)
    (es : List (Value × Value)) :
    putEntries fields seen (φ a) (Value.mapUnder name f es) = φ <$> putEntries fields seen a es := by
  induction es generalizing seen a with
  | nil => rfl
  | cons e es ih =>
    obtain ⟨key, v⟩ := e
    have hcons : Value.mapUnder name f ((key, v) :: es) =
        (key, if key.text? = some name then f v else v) :: Value.mapUnder name f es := by
      simp only [Value.mapUnder, List.map_cons]
      split <;> rfl
    rw [hcons, putEntries, putEntries]
    cases hkey : fieldName key with
    | error m => rfl
    | ok n =>
      rw [fieldName_eq_ok_iff] at hkey
      simp only [hkey, Option.some.injEq, bind, Except.bind]
      split
      · exact ih seen a
      · next g hg =>
        have hname : g.name = n := by simpa using List.find?_some hg
        have hput := hfields g (List.mem_of_find?_eq_some hg) a v
        rw [hname] at hput
        -- The field follows, whether or not its value is the one that was changed.
        generalize (if n = name then f v else v) = w at hput ⊢
        split_ifs
        · rfl
        · show (g.put (φ a) w >>= _) = φ <$> (g.put a v >>= _)
          rw [hput]
          cases g.put a v with
          | error m => rfl
          | ok b => exact ih _ b

/-- A change of the value under a key changes the record alike. -/
theorem decodeRecord_mapUnder (hfields : ∀ g ∈ fields, Follows name f φ g) {blank : α}
    (hblank : φ blank = blank) (es : List (Value × Value)) :
    decodeRecord fields blank (Value.mapUnder name f es) = φ <$> decodeRecord fields blank es := by
  have h := putEntries_mapUnder hfields [] blank es
  rwa [hblank] at h

end Follows

end Adventure.Yaml
