import Mathlib.Data.List.Basic
import Mathlib.Order.Basic
import Mathlib.Tactic.SplitIfs

/-!
# The order of bytes

Strings are ordered by their characters. The bytes of UTF-8 are in the same order.

* `utf8EncodeChar_append_lt` : the bytes of a smaller character come first, whatever follows.
* `lt_iff_bytes_lt` : strings are in the order of their bytes.
-/

namespace Adventure.Text

/-! ### Lists of bytes -/

/-- Lists of one length are told apart before the end of either. -/
lemma append_lt_append {as bs : List UInt8} (hlen : as.length = bs.length) (h : as < bs)
    (xs ys : List UInt8) : as ++ xs < bs ++ ys := by
  induction as generalizing bs with
  | nil =>
    obtain rfl := List.length_eq_zero_iff.1 hlen.symm
    exact absurd h (List.not_lt_nil [])
  | cons a as ih =>
    cases bs with
    | nil => cases hlen
    | cons b bs =>
      rw [List.cons_append, List.cons_append, List.cons_lt_cons_iff]
      rcases List.cons_lt_cons_iff.1 h with hab | ⟨rfl, hlt⟩
      · exact .inl hab
      · exact .inr ⟨rfl, ih (Nat.succ.inj hlen) hlt⟩

lemma ofNat_cons_lt_iff {m n : Nat} {as bs : List UInt8} (hm : m < 256) (hn : n < 256) :
    UInt8.ofNat m :: as < UInt8.ofNat n :: bs ↔ m < n ∨ m = n ∧ as < bs := by
  rw [List.cons_lt_cons_iff, UInt8.lt_iff_toNat_lt, ← UInt8.toNat_inj,
    UInt8.toNat_ofNat_of_lt' hm, UInt8.toNat_ofNat_of_lt' hn]

/-! ### Characters -/

lemma toNat_lt_of_char (c : Char) : c.val.toNat < 0x110000 := by
  rcases c.valid with h | h
  · exact Nat.lt_trans h (by decide)
  · exact h.2

/-- The bytes of a smaller character come first, whatever follows. -/
theorem utf8EncodeChar_append_lt {c d : Char} (h : c < d) (xs ys : List UInt8) :
    String.utf8EncodeChar c ++ xs < String.utf8EncodeChar d ++ ys := by
  have hlt : c.val.toNat < d.val.toNat := UInt32.lt_iff_toNat_lt.1 (Char.lt_def.1 h)
  have hd := toNat_lt_of_char d
  unfold String.utf8EncodeChar
  generalize c.val.toNat = v at *
  generalize d.val.toNat = w at *
  have hv : v / 262144 < 8 ∧ v / 4096 / 64 = v / 262144 ∧ v / 64 / 64 = v / 4096 := by omega
  have hw : w / 262144 < 8 ∧ w / 4096 / 64 = w / 262144 ∧ w / 64 / 64 = w / 4096 := by omega
  dsimp only
  split_ifs
  any_goals omega
  -- Characters of one length are numbers in base 64; a longer one starts with a larger byte.
  all_goals
    first
    | refine append_lt_append (by rfl) ?_ xs ys
      simp (disch := omega) only [ofNat_cons_lt_iff, List.not_lt_nil, Nat.mod_eq_of_lt hv.1,
        Nat.mod_eq_of_lt hw.1]
      omega
    | refine (ofNat_cons_lt_iff ?_ ?_).2 (.inl ?_)
      all_goals omega

lemma utf8EncodeChar_append_pos (c : Char) (xs : List UInt8) :
    [] < String.utf8EncodeChar c ++ xs := by
  unfold String.utf8EncodeChar
  dsimp only
  split_ifs <;> exact List.nil_lt_cons _ _

/-- The order of characters is that of the bytes which encode them. -/
lemma flatMap_utf8EncodeChar_lt {cs ds : List Char} (h : cs < ds) :
    cs.flatMap String.utf8EncodeChar < ds.flatMap String.utf8EncodeChar := by
  induction cs generalizing ds with
  | nil =>
    cases ds with
    | nil => exact absurd h (List.not_lt_nil [])
    | cons d ds => exact utf8EncodeChar_append_pos d _
  | cons c cs ih =>
    cases ds with
    | nil => exact absurd h (List.not_lt_nil _)
    | cons d ds =>
      rcases List.cons_lt_cons_iff.1 h with hcd | ⟨rfl, hlt⟩
      · exact utf8EncodeChar_append_lt hcd _ _
      · exact List.append_left_lt (ih hlt)

/-! ### Strings -/

def bytes (s : String) : List UInt8 := s.toByteArray.data.toList

lemma bytes_eq_flatMap (s : String) : bytes s = s.toList.flatMap String.utf8EncodeChar := by
  rw [bytes, ← String.utf8Encode_toList, List.utf8Encode, List.data_toByteArray]

lemma bytes_lt {s t : String} (h : s < t) : bytes s < bytes t := by
  rw [bytes_eq_flatMap, bytes_eq_flatMap]
  exact flatMap_utf8EncodeChar_lt (String.lt_iff.1 h)

/-- Strings are in the order of their bytes. -/
theorem lt_iff_bytes_lt {s t : String} : s < t ↔ bytes s < bytes t := by
  refine ⟨bytes_lt, fun h => ?_⟩
  by_contra hst
  rcases Decidable.em (t < s) with hts | hts
  · exact List.lt_asymm h (bytes_lt hts)
  · obtain rfl := String.le_antisymm (String.not_lt.1 hts) (String.not_lt.1 hst)
    exact List.lt_irrefl _ h

end Adventure.Text
