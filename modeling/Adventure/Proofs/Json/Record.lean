import Adventure.Json.Shape
import Adventure.Proofs.Computation
import Adventure.Proofs.Json.Range

/-!
# Reading records

An object that sets every field of a record, in the order of the fields, is read like the array of
their values. What every field keeps while its value is put into the record holds of every record
that is read.

* `Shape.decode_object` : an object with all fields is read like an array.
* `Shape.decode_induction` : an invariant of the fields is one of the records.
-/

namespace Adventure.Json

variable {α β : Type}

/-! ### Lists -/

/-- A list of written elements is read back. -/
lemma Decoder.list_map {decode : Decoder α} {f : α → Reading} {as : List α}
    (h : ∀ a ∈ as, decode (f a) = .ok a) : Decoder.list decode (.array (as.map f) true) = .ok as := by
  have hmap : (as.map f).mapM decode = .ok as := by
    rw [mapM_eq_ok_iff, List.forall₂_map_left_iff, List.forall₂_same]
    exact h
  rw [Decoder.list, hmap]
  rfl

/-- What is read from a list is read from its elements. -/
lemma Decoder.exists_of_mem_list {decode : Decoder α} {v : Reading} {as : List α}
    (h : Decoder.list decode v = .ok as) {a : α} (ha : a ∈ as) :
    ∃ vs closed, v = .array vs closed ∧ ∃ u ∈ vs, decode u = .ok a := by
  unfold list at h
  split at h
  · next vs closed =>
    obtain ⟨as', has, h⟩ := bind_eq_ok_iff.1 h
    obtain ⟨-, -, h⟩ := bind_eq_ok_iff.1 h
    obtain rfl := pure_eq_ok_iff.1 h
    exact ⟨vs, closed, rfl, exists_of_forall₂_of_mem (mapM_eq_ok_iff.1 has) ha⟩
  · cases h

namespace Shape

variable {shape : Shape α}

/-! ### Objects with all fields -/

/-- The entries that set the fields to the values. -/
def entries (fields : List (RecordField α)) (vs : List Reading) : List (Option String × Reading) :=
  List.zipWith (fun f v => (some f.name, v)) fields vs

/-- No two fields have the same name. -/
def HasDistinctNames (shape : Shape α) : Prop :=
  (shape.fields.map RecordField.name).Nodup

section DistinctNames

variable {pre fs : List (RecordField α)} {f : RecordField α}

lemma name_notMem (h : shape.HasDistinctNames) (hfields : shape.fields = pre ++ f :: fs) :
    f.name ∉ pre.map RecordField.name := by
  rw [HasDistinctNames, hfields, List.map_append, List.map_cons, List.nodup_append] at h
  obtain ⟨-, -, h⟩ := h
  intro hmem
  exact h _ hmem _ (List.mem_cons_self ..) rfl

/-- If no two fields have the same name, every field is found under its own. -/
lemma field?_eq_some (h : shape.HasDistinctNames) (hfields : shape.fields = pre ++ f :: fs) :
    shape.field? f.name = some f := by
  have hpre : pre.find? (fun g => g.name == f.name) = none := by
    rw [List.find?_eq_none]
    intro g hg heq
    apply name_notMem h hfields
    rw [← beq_iff_eq.1 heq]
    exact List.mem_map_of_mem hg
  rw [field?, hfields, List.find?_append, hpre, Option.none_or]
  simp

lemma putEntries_cons {seen : List String} (hf : shape.field? f.name = some f)
    (hseen : f.name ∉ seen) (a : α) (v : Reading) (es : List (Option String × Reading)) :
    shape.putEntries seen a ((some f.name, v) :: es) =
      f.put a v >>= fun b => shape.putEntries (f.name :: seen) b es := by
  simp [putEntries, decodeKey, hf, hseen, bind, Except.bind]

/-- The entries of the fields that are left are put into the record like the values alone. -/
lemma putEntries_entries (h : shape.HasDistinctNames) (pre fs : List (RecordField α))
    (hfields : shape.fields = pre ++ fs) (seen : List String)
    (hseen : ∀ name, name ∈ seen ↔ name ∈ pre.map RecordField.name) {vs : List Reading}
    (hvs : vs.length = fs.length) (a : α) (index : Nat) :
    ∃ seen', (∀ name, name ∈ seen' ↔ name ∈ shape.fields.map RecordField.name) ∧
      shape.putEntries seen a (entries fs vs) =
        (shape.putElements true index a fs vs).map (seen', ·) := by
  -- `pre` are the fields that are set already, and `seen` holds their names.
  induction fs generalizing pre seen vs a index with
  | nil =>
    obtain rfl := List.length_eq_zero_iff.1 hvs
    refine ⟨seen, ?_, rfl⟩
    rw [hfields, List.append_nil]
    exact hseen
  | cons f fs ih =>
    obtain ⟨v, vs, rfl⟩ := List.exists_cons_of_length_eq_add_one hvs
    have hf : shape.field? f.name = some f := field?_eq_some h hfields
    have hnew : f.name ∉ seen := by
      rw [hseen]
      exact name_notMem h hfields
    rw [entries, List.zipWith_cons_cons, putEntries_cons hf hnew, putElements]
    cases f.put a v with
    | error e => exact ⟨_, fun _ => Iff.rfl, rfl⟩
    | ok b =>
      have hfields' : shape.fields = (pre ++ [f]) ++ fs := by rw [hfields, List.append_cons]
      have hseen' : ∀ name, name ∈ f.name :: seen ↔ name ∈ (pre ++ [f]).map RecordField.name := by
        intro name
        simp [hseen, or_comm]
      exact ih _ hfields' _ hseen' (Nat.succ.inj hvs) b (index + 1)

end DistinctNames

/-- An object that sets all fields in their order is read like the array of their values. -/
theorem decode_object (h : shape.HasDistinctNames) {vs : List Reading}
    (hvs : vs.length = shape.fields.length) :
    shape.decode (.object (entries shape.fields vs) true) = shape.decode (.array vs true) := by
  obtain ⟨seen, hseen, hput⟩ :=
    putEntries_entries h [] shape.fields rfl [] (by simp) hvs shape.blank 0
  have hmissing : shape.missing? seen = none := by
    rw [missing?, List.find?_eq_none]
    intro f hf
    simp [hseen, List.mem_map_of_mem hf]
  rw [decode, decode, hput]
  cases shape.putElements true 0 shape.blank shape.fields vs with
  | error e => rfl
  | ok a => simp [Except.map, bind, Except.bind, require, hmissing, pure, Except.pure]

/-! ### Invariants -/

section Invariant

variable {P : α → Prop}

/-- What is put into a field keeps the property, if no integer exceeds the largest word. -/
def Keeps (P : α → Prop) (f : RecordField α) : Prop :=
  ∀ a v b, P a → v.FitsWords → f.put a v = .ok b → P b

lemma keeps_field {name : String} {required : Bool} {decode : Decoder β} {set : α → β → α}
    (h : ∀ a b v, P a → v.FitsWords → decode v = .ok b → P (set a b)) :
    Keeps P ⟨name, required, fun a v => set a <$> decode v⟩ := by
  intro a v c ha hv hc
  obtain ⟨b, hb, rfl⟩ := map_eq_ok_iff.1 hc
  exact h a b v ha hv hb

/-- A property that every field keeps holds of a record that is read from an object. -/
lemma putEntries_induction (hput : ∀ f ∈ shape.fields, Keeps P f) {seen seen' : List String}
    {a b : α} {es : List (Option String × Reading)} (ha : P a) (hes : ∀ e ∈ es, e.2.FitsWords)
    (h : shape.putEntries seen a es = .ok (seen', b)) : P b := by
  induction es generalizing seen a with
  | nil =>
    obtain ⟨-, rfl⟩ := Prod.mk.inj (Except.ok.inj h)
    exact ha
  | cons e es ih =>
    obtain ⟨key, v⟩ := e
    obtain ⟨hv, hes⟩ := List.forall_mem_cons.1 hes
    obtain ⟨key, -, h⟩ := bind_eq_ok_iff.1 h
    split at h
    · -- An entry without a field is skipped.
      obtain ⟨-, -, h⟩ := bind_eq_ok_iff.1 h
      exact ih ha hes h
    · next f hf =>
      dsimp only at h
      split_ifs at h
      · obtain ⟨_, hthrow, -⟩ := bind_eq_ok_iff.1 h
        exact absurd hthrow throw_ne_ok
      · obtain ⟨c, hc, h⟩ := bind_eq_ok_iff.1 h
        exact ih (hput f (List.mem_of_find?_eq_some hf) a v c ha hv hc) hes h

/-- A property that every field keeps holds of a record that is read from an array. -/
lemma putElements_induction {fs : List (RecordField α)} (hput : ∀ f ∈ fs, Keeps P f)
    {closed : Bool} {index : Nat} {a b : α} {vs : List Reading} (ha : P a)
    (hvs : ∀ v ∈ vs, v.FitsWords) (h : shape.putElements closed index a fs vs = .ok b) : P b := by
  induction fs generalizing index a vs with
  | nil =>
    cases vs with
    | nil =>
      obtain ⟨-, -, h⟩ := bind_eq_ok_iff.1 h
      obtain rfl := pure_eq_ok_iff.1 h
      exact ha
    | cons v vs => cases h
  | cons f fs ih =>
    obtain ⟨hf, hfs⟩ := List.forall_mem_cons.1 hput
    cases vs with
    | nil =>
      obtain ⟨-, -, h⟩ := bind_eq_ok_iff.1 h
      dsimp only at h
      split_ifs at h
      · obtain ⟨_, hthrow, -⟩ := bind_eq_ok_iff.1 h
        exact absurd hthrow throw_ne_ok
      · -- A field that is not required may be left out at the end.
        exact ih hfs ha hvs h
    | cons v vs =>
      obtain ⟨hv, hvs⟩ := List.forall_mem_cons.1 hvs
      obtain ⟨c, hc, h⟩ := bind_eq_ok_iff.1 h
      exact ih hfs (hf a v c ha hv hc) hvs h

/-- A property that every field keeps holds of every record that is read. -/
theorem decode_induction (hblank : P shape.blank) (hput : ∀ f ∈ shape.fields, Keeps P f)
    {v : Reading} (hv : v.FitsWords) {a : α} (h : shape.decode v = .ok a) : P a := by
  unfold decode at h
  split at h
  · obtain ⟨⟨seen, b⟩, hb, h⟩ := bind_eq_ok_iff.1 h
    obtain ⟨-, -, h⟩ := bind_eq_ok_iff.1 h
    split at h
    · exact absurd h throw_ne_ok
    · obtain rfl := pure_eq_ok_iff.1 h
      exact putEntries_induction hput hblank (Reading.fitsWords_object.1 hv) hb
  · exact putElements_induction hput hblank (Reading.fitsWords_array.1 hv) h
  · cases h

end Invariant

end Shape

end Adventure.Json
