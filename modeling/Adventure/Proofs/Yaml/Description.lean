import Adventure.Proofs.Number.Numeral
import Adventure.Yaml.Description
import Mathlib.Tactic.Common

/-!
# Descriptions on one line

What is written over many lines is described on one line. A string stands for itself, and an outline
shows tags as they are, so that these alone can bring a line feed into a description.

* `newline_mem_outline_iff` : line feeds in an outline.
* `newline_mem_describe_iff` : line feeds in a description, and in the messages with one.
-/

namespace Adventure.Yaml

open Number

/-! ### Tags -/

mutual

/-- The tags of a value and of everything in it. -/
def Value.tags : Value → List String
  | .sequence vs => elementTags vs
  | .mapping es  => entryTags es
  | .tagged t v  => t :: v.tags
  | _            => []

def elementTags : List Value → List String
  | []      => []
  | v :: vs => v.tags ++ elementTags vs

def entryTags : List (Value × Value) → List String
  | []           => []
  | (k, v) :: es => k.tags ++ v.tags ++ entryTags es

end

/-! ### Scalars -/

lemma newline_notMem_toString_int (n : Int) : '\n' ∉ (toString n).toList := by
  intro h
  rcases isDigit_or_minus_of_mem_toString h with h | h <;> exact absurd h (by decide)

lemma newline_notMem_toString_nat (n : Nat) : '\n' ∉ (toString n).toList :=
  newline_notMem_toString_int n

lemma newline_notMem_positional (d : Decimal) : '\n' ∉ d.positional.toList := by
  have hdigits := newline_notMem_toString_nat d.digits
  unfold Decimal.positional
  dsimp only
  split
  · simpa using hdigits
  · split_ifs
    · rw [String.toList_ofList, List.mem_append, List.mem_cons]
      rintro (h | h | h)
      · exact hdigits (List.mem_of_mem_take h)
      · exact absurd h (by decide)
      · exact hdigits (List.mem_of_mem_drop h)
    · simpa using hdigits

lemma newline_notMem_scientific (d : Decimal) : '\n' ∉ d.scientific.toList := by
  have hdigits := newline_notMem_toString_nat d.digits
  have htake : '\n' ∉ (toString d.digits).toList.take 1 := fun h => hdigits (List.mem_of_mem_take h)
  have hdrop : '\n' ∉ (toString d.digits).toList.drop 1 := fun h => hdigits (List.mem_of_mem_drop h)
  unfold Decimal.scientific
  simp only [String.toList_append, String.toList_ofList, List.mem_append, not_or]
  refine ⟨⟨⟨⟨htake, ?_⟩, hdrop⟩, by decide⟩, newline_notMem_toString_int _⟩
  split_ifs <;> decide

/-- A floating point number keeps to one line. -/
lemma newline_notMem_toMarked (x : Binary64) : '\n' ∉ x.toMarked.toList := by
  have hsign : ∀ negative, '\n' ∉ (Binary64.signText negative).toList := by decide
  cases x with
  | nan => decide
  | infinite negative => revert negative; decide
  | finite negative m e =>
    unfold Binary64.toMarked
    simp only [String.toList_append, List.mem_append, not_or]
    refine ⟨hsign negative, ?_⟩
    split_ifs
    · decide
    · unfold Binary64.withPoint
      split_ifs
      · exact newline_notMem_positional _
      · simp [newline_notMem_positional]
    · exact newline_notMem_scientific _

lemma newline_notMem_hexDigits (n : Nat) : '\n' ∉ Nat.toDigits 16 n := by
  have hdigit : ∀ d < 16, '\n' ≠ Nat.digitChar d := by decide
  induction n using Nat.strongRecOn with
  | ind n ih =>
    by_cases hn : n < 16
    · rw [Nat.toDigits_of_lt_base hn, List.mem_singleton]
      exact hdigit n hn
    · rw [Nat.toDigits_of_base_le (by decide) (by omega), List.mem_append, List.mem_singleton]
      rintro (h | h)
      · exact ih (n / 16) (by omega) h
      · exact hdigit (n % 16) (by omega) h

/-- What is escaped keeps to one line: a line feed has a letter of its own. -/
lemma newline_notMem_escapeDebug (c : Char) : '\n' ∉ (escapeDebug c).toList := by
  unfold escapeDebug
  by_cases hn : c = '\n'
  · subst hn
    decide
  · rw [if_neg hn]
    have hhex := newline_notMem_hexDigits c.toNat
    split_ifs <;> simp [Ne.symm hn, hhex]

lemma newline_notMem_quoteDebug (s : String) : '\n' ∉ (quoteDebug s).toList := by
  simp [quoteDebug, newline_notMem_escapeDebug]

/-! ### Outlines -/

/-- Strings on one line between two others add no line feed. -/
lemma newline_mem_intercalate_iff {sep : String} (hsep : '\n' ∉ sep.toList) (ss : List String) :
    '\n' ∈ (sep.intercalate ss).toList ↔ ∃ s ∈ ss, '\n' ∈ s.toList := by
  induction ss with
  | nil => simp
  | cons s ss ih =>
    cases ss with
    | nil => simp
    | cons s' ss =>
      rw [String.intercalate_cons_cons]
      simp only [String.toList_append, List.mem_append, ih, hsep, or_false, List.mem_cons,
        exists_eq_or_imp]

/-- A key that stands for itself has no tag. -/
lemma newline_notMem_of_bareOutline? {k : Value} {s : String} (h : k.bareOutline? = some s) :
    '\n' ∉ s.toList ∧ k.tags = [] := by
  cases k with
  | boolean b =>
    obtain rfl := Option.some.inj h
    cases b <;> decide
  | integer n =>
    obtain rfl := Option.some.inj h
    exact ⟨newline_notMem_toString_int n, rfl⟩
  | float x =>
    obtain rfl := Option.some.inj h
    exact ⟨newline_notMem_toMarked x, rfl⟩
  | string s =>
    obtain rfl := Option.some.inj h
    exact ⟨newline_notMem_quoteDebug s, rfl⟩
  | _ => cases h

/-- Some of the texts has a line feed. -/
def HasNewline (texts : List String) : Prop :=
  ∃ t ∈ texts, '\n' ∈ t.toList

@[simp] lemma hasNewline_nil : ¬ HasNewline [] := by simp [HasNewline]

@[simp] lemma hasNewline_cons {t : String} {ts : List String} :
    HasNewline (t :: ts) ↔ '\n' ∈ t.toList ∨ HasNewline ts := by
  simp [HasNewline]

@[simp] lemma hasNewline_append {ts ts' : List String} :
    HasNewline (ts ++ ts') ↔ HasNewline ts ∨ HasNewline ts' := by
  simp [HasNewline, or_and_right, exists_or]

lemma newline_mem_wrap_iff {front back : String} (hfront : '\n' ∉ front.toList)
    (hback : '\n' ∉ back.toList) (s : String) :
    '\n' ∈ (front ++ s ++ back).toList ↔ '\n' ∈ s.toList := by
  simp [hfront, hback]

mutual

/-- An outline has a line feed where a tag in it has one. -/
theorem newline_mem_outline_iff (v : Value) : '\n' ∈ v.outline.toList ↔ HasNewline v.tags := by
  -- Only tags are written as they are: strings are escaped, and numbers keep to one line.
  match v with
  | .null => exact iff_of_false (by decide) hasNewline_nil
  | .boolean b => exact iff_of_false (by revert b; decide) hasNewline_nil
  | .integer n =>
    refine iff_of_false ?_ hasNewline_nil
    exact mt (newline_mem_wrap_iff (by decide) (by decide) _).1 (newline_notMem_toString_int n)
  | .float x =>
    refine iff_of_false ?_ hasNewline_nil
    exact mt (newline_mem_wrap_iff (by decide) (by decide) _).1 (newline_notMem_toMarked x)
  | .string s =>
    refine iff_of_false ?_ hasNewline_nil
    exact mt (newline_mem_wrap_iff (by decide) (by decide) _).1 (newline_notMem_quoteDebug s)
  | .sequence vs =>
    refine (newline_mem_wrap_iff (by decide) (by decide) _).trans ?_
    rw [newline_mem_intercalate_iff (by decide)]
    exact hasNewline_outlineElements_iff vs
  | .mapping es =>
    refine (newline_mem_wrap_iff (by decide) (by decide) _).trans ?_
    rw [newline_mem_intercalate_iff (by decide)]
    exact hasNewline_outlineEntries_iff es
  | .tagged t v =>
    have houtline : (Value.tagged t v).outline =
        "TaggedValue \x7b tag: !" ++ (t ++ ", value: " ++ v.outline) ++ " \x7d" := by
      simp only [← String.append_assoc]
      rfl
    rw [houtline, newline_mem_wrap_iff (by decide) (by decide), Value.tags, hasNewline_cons,
      ← newline_mem_outline_iff v]
    simp

/-- The same for the elements of a sequence. -/
theorem hasNewline_outlineElements_iff (vs : List Value) :
    HasNewline (outlineElements vs) ↔ HasNewline (elementTags vs) := by
  match vs with
  | [] => exact Iff.rfl
  | v :: vs =>
    show HasNewline (v.outline :: outlineElements vs) ↔ HasNewline (v.tags ++ elementTags vs)
    rw [hasNewline_cons, hasNewline_append, newline_mem_outline_iff v,
      hasNewline_outlineElements_iff vs]

/-- The same for the entries of a mapping. -/
theorem hasNewline_outlineEntries_iff (es : List (Value × Value)) :
    HasNewline (outlineEntries es) ↔ HasNewline (entryTags es) := by
  match es with
  | [] => exact Iff.rfl
  | (k, v) :: es =>
    have hkey : '\n' ∈ (k.bareOutline?.getD k.outline).toList ↔ HasNewline k.tags := by
      cases hbare : k.bareOutline? with
      | none => exact newline_mem_outline_iff k
      | some s =>
        obtain ⟨hs, htags⟩ := newline_notMem_of_bareOutline? hbare
        rw [htags]
        exact iff_of_false hs hasNewline_nil
    show HasNewline ((k.bareOutline?.getD k.outline ++ ": " ++ v.outline) :: outlineEntries es) ↔
      HasNewline (k.tags ++ v.tags ++ entryTags es)
    rw [hasNewline_cons, hasNewline_append, hasNewline_append, ← hkey,
      ← newline_mem_outline_iff v, hasNewline_outlineEntries_iff es]
    simp

end

/-! ### Descriptions -/

/-- What is described as it was written, line feeds and all: a string, or a value with a tag that
has no written form. -/
inductive Value.KeepsNewline : Value → Prop
  | string {s : String} (h : '\n' ∈ s.toList) : KeepsNewline (.string s)
  | tag {v : Value} (hv : v.isWritable false = false) (h : HasNewline v.tags) : KeepsNewline v

lemma Value.keepsNewline_string_iff {s : String} :
    (Value.string s).KeepsNewline ↔ '\n' ∈ s.toList := by
  constructor
  · rintro (h | ⟨hv, -⟩)
    · exact h
    · cases hv
  · exact .string

/-- A value other than a string keeps line feeds exactly if it has no written form and they stand in
its tags. -/
lemma Value.keepsNewline_iff_of_ne {v : Value} (hv : ∀ s, v ≠ .string s) :
    v.KeepsNewline ↔ v.isWritable false = false ∧ HasNewline v.tags := by
  constructor
  · rintro (h | ⟨hw, h⟩)
    · exact absurd rfl (hv _)
    · exact ⟨hw, h⟩
  · rintro ⟨hw, h⟩
    exact .tag hw h

/-- A value that is no string is shown as it is written, with blanks for the line feeds, or in
outline. -/
lemma Value.describe_of_ne {v : Value} (hv : ∀ s, v ≠ .string s) :
    v.describe = if v.isWritable false then
        String.ofList ((Text.trimEnd v.text).map fun c => if c = '\n' then ' ' else c)
      else v.outline := by
  cases v with
  | string s => exact absurd rfl (hv s)
  | _ => rfl

/-- A description has a line feed where a string or a tag without a written form has one. -/
theorem newline_mem_describe_iff (v : Value) : '\n' ∈ v.describe.toList ↔ v.KeepsNewline := by
  by_cases hstring : ∃ s, v = .string s
  · obtain ⟨s, rfl⟩ := hstring
    exact Value.keepsNewline_string_iff.symm
  · have hv := not_exists.1 hstring
    rw [Value.keepsNewline_iff_of_ne hv, Value.describe_of_ne hv]
    cases hw : v.isWritable false with
    | false =>
      rw [if_neg (by decide), newline_mem_outline_iff]
      simp
    | true =>
      rw [if_pos rfl, String.toList_ofList, List.mem_map]
      refine iff_of_false ?_ (by simp)
      rintro ⟨c, -, hc⟩
      split_ifs at hc with hn
      · exact absurd hc (by decide)
      · exact hn hc

end Adventure.Yaml
