import Adventure.Proofs.Json.Record
import Mathlib.Data.List.Nodup

/-!
# Reading objects with some of the fields

An object may leave out fields of a record, its keys may come in any order, and keys without a field
do not matter. Whatever the order is, each value that is given sets its field, and each field that
is left out stays as it is in the blank record.

* `Shape.putEntries_fill` : the entries set the fields one after the other.
* `Shape.decode_of_isObject` : the record that is read has all its fields, given or left out.
-/

namespace Adventure.Json.Shape

variable {α β : Type} {shape : Shape α} {fill : List String → α}

/-! ### Objects -/

/-- The entries of the fields that have a value. -/
def present (fields : List (RecordField α)) (values : List (Option Reading)) :
    List (String × Reading) :=
  (fields.zip values).filterMap fun p => p.2.map (p.1.name, ·)

/-- The object sets the fields that have a value and no others, in any order. Under keys without a
field it holds what it likes. -/
def IsObject (shape : Shape α) (values : List (Option Reading)) (v : Reading) : Prop :=
  ∃ es extra, v = .object es true ∧
    es.Perm ((present shape.fields values ++ extra).map fun e => (some e.1, e.2)) ∧
    ∀ e ∈ extra, shape.field? e.1 = none ∧ e.2.isWhole = true

def key? (shape : Shape α) (e : Option String × Reading) : Option String :=
  e.1.filter fun key => (shape.field? key).isSome

lemma mem_present {fields : List (RecordField α)} {values : List (Option Reading)} {name : String}
    {v : Reading} : (name, v) ∈ present fields values ↔
      ∃ f, (f, some v) ∈ fields.zip values ∧ f.name = name := by
  simp only [present, List.mem_filterMap, Option.map_eq_some_iff, Prod.exists, Prod.mk.injEq]
  constructor
  · rintro ⟨f, _, hmem, _, rfl, rfl, rfl⟩
    exact ⟨f, hmem, rfl⟩
  · rintro ⟨f, hmem, rfl⟩
    exact ⟨f, _, hmem, _, rfl, rfl, rfl⟩

/-- The entries of the fields that are given come in the order of the fields. -/
lemma present_sublist (fields : List (RecordField α)) (values : List (Option Reading)) :
    List.Sublist ((present fields values).map Prod.fst) (fields.map RecordField.name) := by
  induction fields generalizing values with
  | nil => simp [present]
  | cons f fs ih =>
    cases values with
    | nil => simp [present]
    | cons value values =>
      cases value with
      | none => exact (ih values).cons f.name
      | some v => exact (ih values).cons_cons f.name

lemma field?_of_mem (h : shape.HasDistinctNames) {f : RecordField α} (hf : f ∈ shape.fields) :
    shape.field? f.name = some f := by
  obtain ⟨pre, post, hfields⟩ := List.append_of_mem hf
  exact field?_eq_some h hfields

lemma key?_of_field {f : RecordField α} (hf : shape.field? f.name = some f) (v : Reading) :
    shape.key? (some f.name, v) = some f.name := by
  simp [key?, hf]

lemma key?_of_skipped {key : String} (hkey : shape.field? key = none) (v : Reading) :
    shape.key? (some key, v) = none := by
  simp [key?, hkey]

/-- The keys of an object that set fields are the names of the fields that are given. -/
lemma filterMap_key?_perm (h : shape.HasDistinctNames) {values : List (Option Reading)}
    {es : List (Option String × Reading)} {extra : List (String × Reading)}
    (hperm : es.Perm ((present shape.fields values ++ extra).map fun e => (some e.1, e.2)))
    (hextra : ∀ e ∈ extra, shape.field? e.1 = none) :
    (es.filterMap shape.key?).Perm ((present shape.fields values).map Prod.fst) := by
  have hpresent : ((present shape.fields values).map fun e => (some e.1, e.2)).filterMap
      shape.key? = (present shape.fields values).map Prod.fst := by
    rw [List.filterMap_map, ← List.filterMap_eq_map]
    apply List.filterMap_congr
    rintro ⟨name, v⟩ he
    obtain ⟨f, hzip, rfl⟩ := mem_present.1 he
    exact key?_of_field (field?_of_mem h (List.of_mem_zip hzip).1) v
  have hskipped : (extra.map fun e => (some e.1, e.2)).filterMap shape.key? = [] := by
    rw [List.filterMap_map, List.filterMap_eq_nil_iff]
    exact fun e he => key?_of_skipped (hextra e he) e.2
  have hkeys := hperm.filterMap shape.key?
  rwa [List.map_append, List.filterMap_append, hpresent, hskipped, List.append_nil] at hkeys

/-! ### Filling in a record -/

/-- The record `fill seen` has the fields `seen`. A value that is given adds its field; a field that
is left out is not required, and makes no difference. -/
structure Fits (fill : List String → α) (f : RecordField α) (value : Option Reading) : Prop where
  put : ∀ v, value = some v → ∀ seen, f.put (fill seen) v = .ok (fill (f.name :: seen))
  required : value = none → f.required = false
  fill : value = none → ∀ seen, fill (f.name :: seen) = fill seen

section Fits

variable {name : String} {decode : Decoder β} {set : α → β → α}

/-- A value that is given is read. -/
lemma fits_some {required : Bool} {v : Reading} {b : β} (hv : decode v = .ok b)
    (hset : ∀ seen, set (fill seen) b = fill (name :: seen)) :
    Fits fill ⟨name, required, fun a v => set a <$> decode v⟩ (some v) := by
  refine ⟨?_, nofun, nofun⟩
  rintro _ ⟨⟩ seen
  dsimp only
  rw [hv, ← hset]
  rfl

/-- A value that may be left out is read, or the field is blank without it. -/
lemma fits_of_optional (b : β) {value : Option Reading}
    (hvalue : ∀ v, value = some v → decode v = .ok b)
    (hset : ∀ seen, set (fill seen) b = fill (name :: seen))
    (hnone : value = none → ∀ seen, fill (name :: seen) = fill seen) :
    Fits fill ⟨name, false, fun a v => set a <$> decode v⟩ value := by
  cases value with
  | none => exact ⟨nofun, fun _ => rfl, hnone⟩
  | some v => exact fits_some (hvalue v rfl) hset

end Fits

/-- The entry sets a field, or it is skipped. -/
inductive Sets (shape : Shape α) (fill : List String → α) : Option String × Reading → Prop
  | field {f : RecordField α} {v : Reading} (hf : shape.field? f.name = some f)
      (hput : ∀ seen, f.put (fill seen) v = .ok (fill (f.name :: seen))) :
      Sets shape fill (some f.name, v)
  | skipped {key : String} {v : Reading} (hkey : shape.field? key = none)
      (hwhole : v.isWhole = true) : Sets shape fill (some key, v)

/-- The entries set the fields one after the other. -/
lemma putEntries_fill (seen : List String) {es : List (Option String × Reading)}
    (hes : ∀ e ∈ es, shape.Sets fill e) (hnodup : (es.filterMap shape.key?).Nodup)
    (hseen : ∀ n ∈ es.filterMap shape.key?, n ∉ seen) :
    ∃ seen', shape.putEntries seen (fill seen) es = .ok (seen', fill seen') ∧
      ∀ n, n ∈ seen' ↔ n ∈ es.filterMap shape.key? ∨ n ∈ seen := by
  induction es generalizing seen with
  | nil => exact ⟨seen, rfl, by simp⟩
  | cons e es ih =>
    obtain ⟨he, hrest⟩ := List.forall_mem_cons.1 hes
    cases he with
    | @field f v hf hput =>
      have hkeys : ((some f.name, v) :: es).filterMap shape.key? =
          f.name :: es.filterMap shape.key? := by
        rw [List.filterMap_cons_some (key?_of_field hf v)]
      rw [hkeys] at hnodup hseen ⊢
      obtain ⟨hnew, hnodup⟩ := List.nodup_cons.1 hnodup
      obtain ⟨hfseen, hseen⟩ := List.forall_mem_cons.1 hseen
      -- No key occurs twice, so the keys further on have not been seen yet.
      have hseen' : ∀ n ∈ es.filterMap shape.key?, n ∉ f.name :: seen := by
        intro n hn
        rw [List.mem_cons, not_or]
        exact ⟨fun heq => hnew (heq ▸ hn), hseen n hn⟩
      obtain ⟨seen', hentries, hmem⟩ := ih (f.name :: seen) hrest hnodup hseen'
      refine ⟨seen', ?_, fun n => ?_⟩
      · rw [putEntries_cons hf hfseen, hput]
        exact hentries
      · rw [hmem, List.mem_cons, List.mem_cons, or_left_comm, or_assoc]
    | @skipped key v hkey hwhole =>
      have hkeys : ((some key, v) :: es).filterMap shape.key? = es.filterMap shape.key? := by
        rw [List.filterMap_cons_none (key?_of_skipped hkey v)]
      rw [hkeys] at hnodup hseen ⊢
      obtain ⟨seen', hentries, hmem⟩ := ih seen hrest hnodup hseen
      refine ⟨seen', ?_, hmem⟩
      rw [← hentries]
      simp [putEntries, decodeKey, hkey, hwhole, require, bind, Except.bind]

/-- What is left out makes no difference. -/
lemma fill_present (hcongr : ∀ s s', (∀ n, n ∈ s ↔ n ∈ s') → fill s = fill s')
    {fields : List (RecordField α)} {values : List (Option Reading)}
    (hfits : List.Forall₂ (Fits fill) fields values) (seen : List String) :
    fill ((present fields values).map Prod.fst ++ seen) =
      fill (fields.map RecordField.name ++ seen) := by
  induction hfits generalizing seen with
  | nil => rfl
  | @cons f value fields values hf _ ih =>
    have hmove : ∀ names : List String,
        fill (f.name :: (names ++ seen)) = fill (names ++ f.name :: seen) :=
      fun names => hcongr _ _ fun n => (List.perm_middle.symm.mem_iff)
    cases value with
    | none => exact (ih seen).trans (hf.fill rfl _).symm
    | some v => exact ((hmove _).trans (ih _)).trans (hmove _).symm

/-- A field that is required is given. -/
lemma mem_present_of_required {fields : List (RecordField α)} {values : List (Option Reading)}
    (hfits : List.Forall₂ (Fits fill) fields values) {f : RecordField α} (hf : f ∈ fields)
    (hrequired : f.required = true) : f.name ∈ (present fields values).map Prod.fst := by
  induction hfits with
  | nil => cases hf
  | @cons g value fields values hg _ ih =>
    rcases List.mem_cons.1 hf with rfl | hf
    · cases value with
      | none => rw [hg.required rfl] at hrequired; cases hrequired
      | some v => exact List.mem_cons_self ..
    · cases value with
      | none => exact ih hf
      | some v => exact List.mem_cons_of_mem _ (ih hf)

/-- The record that is read from an object has all its fields, whether they are given or left out.
-/
theorem decode_of_isObject (hnames : shape.HasDistinctNames) (hblank : fill [] = shape.blank)
    (hcongr : ∀ s s', (∀ n, n ∈ s ↔ n ∈ s') → fill s = fill s') {values : List (Option Reading)}
    (hfits : List.Forall₂ (Fits fill) shape.fields values) {v : Reading}
    (hv : shape.IsObject values v) :
    shape.decode v = .ok (fill (shape.fields.map RecordField.name)) := by
  obtain ⟨es, extra, rfl, hperm, hextra⟩ := hv
  have hes : ∀ e ∈ es, shape.Sets fill e := by
    intro e he
    obtain ⟨⟨name, v⟩, hmem, rfl⟩ := List.mem_map.1 (hperm.mem_iff.1 he)
    rcases List.mem_append.1 hmem with hmem | hmem
    · obtain ⟨f, hzip, rfl⟩ := mem_present.1 hmem
      have hf := field?_of_mem hnames (List.of_mem_zip hzip).1
      exact .field hf ((List.forall₂_zip hfits hzip).put v rfl)
    · exact .skipped (hextra _ hmem).1 (hextra _ hmem).2
  -- The keys that set fields are the names of the given fields in another order, and these are
  -- distinct.
  have hkeys := filterMap_key?_perm hnames hperm fun e he => (hextra e he).1
  obtain ⟨seen, hput, hseen⟩ := putEntries_fill [] hes
    (hkeys.nodup_iff.2 ((present_sublist _ _).nodup hnames)) (by simp)
  have hfill : fill seen = fill (shape.fields.map RecordField.name) := by
    have hall := fill_present hcongr hfits []
    simp only [List.append_nil] at hall
    rw [← hall]
    exact hcongr _ _ fun n => by simp [hseen, hkeys.mem_iff]
  have hmissing : shape.missing? seen = none := by
    rw [missing?, List.find?_eq_none]
    intro f hf hrequired
    obtain ⟨hrequired, hnew⟩ : f.required = true ∧ f.name ∉ seen := by simpa using hrequired
    rw [hseen, hkeys.mem_iff] at hnew
    exact hnew (.inl (mem_present_of_required hfits hf hrequired))
  rw [decode, ← hblank, hput, ← hfill]
  simp [bind, Except.bind, require, hmissing, pure, Except.pure]

end Adventure.Json.Shape
