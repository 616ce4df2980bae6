import Adventure.Json.Reading
import Mathlib.Tactic.Common

/-!
# The integers of a JSON text

An integer that is read from JSON text fits into 64 bits, however deep it stands in a value: a
numeral that is too large, or that has a point or an exponent, is a floating point number.

* `Reading.fitsWords_ofText` : every integer of a text is at most the largest word.
-/

namespace Adventure.Json

open Number

/-! ### Numerals -/

namespace Numeral

/-- A number that has been scaled is no integer. -/
lemma scaled_ne_integer (negative : Bool) (m : Nat) (k n : Int) :
    scaled negative m k ≠ .integer n := by
  unfold scaled
  dsimp only
  split
  · split_ifs <;> exact nofun
  · exact nofun

/-- Only a numeral without point and exponent has an integer as its value, and only a small one. -/
lemma Parts.value_le {p : Parts} {n : Int} (h : p.value = .integer n) : n ≤ maxUInt64 := by
  unfold Parts.value at h
  dsimp only at h
  split at h
  · split_ifs at h with _ _ hle
    · obtain rfl := Numeral.integer.inj h
      simp only [maxUInt64]
      omega
    · exact absurd h (scaled_ne_integer _ _ _ _)
    · obtain rfl := Numeral.integer.inj h
      simp only [maxUInt64] at hle ⊢
      omega
    · exact absurd h (scaled_ne_integer _ _ _ _)
  · split at h
    · exact absurd h (scaled_ne_integer _ _ _ _)
    · split_ifs at h <;> exact absurd h (scaled_ne_integer _ _ _ _)

/-- Integers beyond the largest word are read as floating point numbers. -/
lemma take_le {cs rest : List Char} {n : Int} (h : take cs = some (.integer n, rest)) :
    n ≤ maxUInt64 := by
  obtain ⟨⟨p, r⟩, -, hp⟩ := Option.map_eq_some_iff.1 h
  exact Parts.value_le (Prod.mk.inj hp).1

end Numeral

namespace Reading

/-! ### The numbers in a reading -/

/-- The number stands somewhere in the reading. -/
inductive Contains (n : Numeral) : Reading → Prop
  | number : Contains n (.number n)
  | array {v : Reading} {vs : List Reading} {closed : Bool} (hv : v ∈ vs) (h : Contains n v) :
      Contains n (.array vs closed)
  | object {key : Option String} {v : Reading} {es : List (Option String × Reading)} {closed : Bool}
      (hv : (key, v) ∈ es) (h : Contains n v) : Contains n (.object es closed)

/-- The integers in the reading are at most the largest word of 64 bits. -/
def FitsWords (v : Reading) : Prop :=
  ∀ n, v.Contains (.integer n) → n ≤ maxUInt64

lemma fitsWords_number {n : Numeral} :
    (number n).FitsWords ↔ ∀ m, n = .integer m → m ≤ maxUInt64 := by
  constructor
  · rintro h m rfl
    exact h m .number
  · intro h m hm
    cases hm
    exact h m rfl

lemma fitsWords_array {vs : List Reading} {closed : Bool} :
    (array vs closed).FitsWords ↔ ∀ v ∈ vs, v.FitsWords := by
  constructor
  · intro h v hv n hn
    exact h n (.array hv hn)
  · intro h n hn
    cases hn with
    | array hv hn => exact h _ hv n hn

lemma fitsWords_object {es : List (Option String × Reading)} {closed : Bool} :
    (object es closed).FitsWords ↔ ∀ e ∈ es, e.2.FitsWords := by
  constructor
  · rintro h ⟨key, v⟩ hv n hn
    exact h n (.object hv hn)
  · intro h n hn
    cases hn with
    | object hv hn => exact h _ hv n hn

lemma fitsWords_null : FitsWords null := nofun

lemma fitsWords_boolean (b : Bool) : FitsWords (boolean b) := nofun

lemma fitsWords_string (s : Option String) : FitsWords (string s) := nofun

lemma fitsWords_broken : FitsWords broken := nofun

/-! ### The reader -/

lemma fitsWords_word {v : Reading} (h : v.FitsWords) (w : String) (cs : List Char) :
    (word w v cs).1.FitsWords := by
  unfold word
  split
  · exact h
  · exact fitsWords_broken

lemma fitsWords_scalar (cs : List Char) : (scalar cs).1.FitsWords := by
  unfold scalar
  split
  · exact fitsWords_word fitsWords_null _ _
  · exact fitsWords_word (fitsWords_boolean _) _ _
  · exact fitsWords_word (fitsWords_boolean _) _ _
  · split
    · exact fitsWords_string _
    · exact fitsWords_broken
  · split
    · next n rest hn =>
      apply fitsWords_number.2
      rintro m rfl
      exact Numeral.take_le hn
    · exact fitsWords_broken

-- The recursion is that of the readers: one character of the text pays for each step.
mutual

/-- Whatever a text holds, the integers that are read from it fit into words. -/
theorem fitsWords_readValue (fuel : Nat) (cs : List Char) : (readValue fuel cs).1.FitsWords := by
  match fuel with
  | 0 => exact fitsWords_broken
  | fuel + 1 =>
    rw [readValue]
    split
    · split
      · exact fitsWords_array.2 (by simp)
      · exact fitsWords_array.2 (fitsWords_readElements fuel _)
    · split
      · exact fitsWords_object.2 (by simp)
      · exact fitsWords_object.2 (fitsWords_readEntries fuel _)
    · exact fitsWords_scalar _

theorem fitsWords_readElements (fuel : Nat) (cs : List Char) :
    ∀ v ∈ (readElements fuel cs).1, v.FitsWords := by
  match fuel with
  | 0 => simp [readElements]
  | fuel + 1 =>
    have hv := fitsWords_readValue fuel cs
    rw [readElements]
    split
    · simpa using fitsWords_broken
    · next v rest hread =>
      rw [hread] at hv
      split
      · next rest' _ => exact List.forall_mem_cons.2 ⟨hv, fitsWords_readElements fuel rest'⟩
      · simpa using hv
      · simpa using hv

theorem fitsWords_readEntries (fuel : Nat) (cs : List Char) :
    ∀ e ∈ (readEntries fuel cs).1, e.2.FitsWords := by
  match fuel with
  | 0 => simp [readEntries]
  | fuel + 1 =>
    rw [readEntries]
    split
    · split
      · simp
      · split
        · next rest _ =>
          have hv := fitsWords_readValue fuel rest
          split
          · simpa using fitsWords_broken
          · next v rest' hread =>
            rw [hread] at hv
            split
            · next rest'' _ =>
              exact List.forall_mem_cons.2 ⟨hv, fitsWords_readEntries fuel rest''⟩
            · simpa using hv
            · simpa using hv
        · simpa using fitsWords_broken
    · simp

end

/-- Every integer of a text is at most the largest word. -/
theorem fitsWords_ofText (cs : List Char) : (ofText cs).1.FitsWords :=
  fitsWords_readValue (2 * cs.length + 2) cs

end Reading

end Adventure.Json
