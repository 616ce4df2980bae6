import Adventure.Number.Integer
import Mathlib.Tactic.Common

/-!
# Decimal numerals

The integer that a text denotes, said without a reader: an optional sign and one or more digits.

* `readInteger_eq_some_iff`, `readInt64_eq_some_iff` : the readers read exactly the numerals.
* `numeral_toString` : the canonical decimal of an integer is a numeral of it.
-/

namespace Adventure.Number

/-- The text is an optional sign and one or more digits, and denotes the integer. -/
inductive Numeral : List Char → Int → Prop
  | unsigned {ds : List Char} (h : isDigits ds = true) : Numeral ds (Nat.ofDigitChars 10 ds 0)
  | plus {ds : List Char} (h : isDigits ds = true) : Numeral ('+' :: ds) (Nat.ofDigitChars 10 ds 0)
  | minus {ds : List Char} (h : isDigits ds = true) :
      Numeral ('-' :: ds) (-(Nat.ofDigitChars 10 ds 0))

/-! ### Runs of digits -/

lemma isDigits_iff {cs : List Char} :
    isDigits cs = true ↔ cs ≠ [] ∧ ∀ c ∈ cs, c.isDigit = true := by
  simp [isDigits]

lemma isDigits_head {c : Char} {cs : List Char} (h : isDigits (c :: cs) = true) :
    c.isDigit = true :=
  (isDigits_iff.1 h).2 c (List.mem_cons_self ..)

lemma digitsValueFrom_eq (acc : Nat) (cs : List Char) :
    digitsValueFrom acc cs = Nat.ofDigitChars 10 cs acc := by
  fun_induction digitsValueFrom acc cs with
  | case1 acc => rw [Nat.ofDigitChars_nil]
  | case2 acc c cs ih => rw [ih, Nat.ofDigitChars_cons, digitValue]

lemma digitsValue_eq (cs : List Char) : digitsValue cs = Nat.ofDigitChars 10 cs 0 :=
  digitsValueFrom_eq 0 cs

lemma takeSign_of_isDigits {ds : List Char} (h : isDigits ds = true) :
    takeSign ds = (false, ds) := by
  unfold takeSign
  split
  · exact absurd (isDigits_head h) (by decide)
  · exact absurd (isDigits_head h) (by decide)
  · rfl

/-! ### The readers read the numerals -/

/-- The reader of integers takes the numerals and nothing else. -/
theorem readInteger_eq_some_iff {cs : List Char} {n : Int} :
    readInteger cs = some n ↔ Numeral cs n := by
  constructor
  · intro h
    obtain ⟨b, ds, hs⟩ : ∃ b ds, takeSign cs = (b, ds) := ⟨_, _, rfl⟩
    simp only [readInteger, hs, digitsValue_eq, Option.ite_none_right_eq_some,
      Option.some.injEq] at h
    obtain ⟨hd, rfl⟩ := h
    unfold takeSign at hs
    split at hs <;> obtain ⟨rfl, rfl⟩ := Prod.mk.inj hs
    · exact .plus hd
    · exact .minus hd
    · exact .unsigned hd
  · rintro (h | h | h)
    · simp [readInteger, takeSign_of_isDigits h, h, digitsValue_eq]
    · simp [readInteger, takeSign, h, digitsValue_eq]
    · simp [readInteger, takeSign, h, digitsValue_eq]

/-- The reader of integers of 64 bits takes the numerals in the range and nothing else. -/
theorem readInt64_eq_some_iff {cs : List Char} {n : Int} :
    readInt64 cs = some n ↔ Numeral cs n ∧ minInt64 ≤ n ∧ n ≤ maxInt64 := by
  rw [readInt64, Option.filter_eq_some_iff, readInteger_eq_some_iff]
  simp [fitsInt64]

/-- A numeral outside the range of 64 bits is not read. -/
lemma readInt64_eq_none {cs : List Char} {n : Int} (h : Numeral cs n)
    (hn : n < minInt64 ∨ maxInt64 < n) : readInt64 cs = none := by
  rw [readInt64, readInteger_eq_some_iff.2 h, Option.filter_eq_none_iff]
  simp only [fitsInt64, Option.some.injEq, forall_eq', Bool.and_eq_true, decide_eq_true_eq]
  omega

/-! ### Canonical decimals -/

lemma isDigits_toDigits (n : Nat) : isDigits (Nat.toDigits 10 n) = true := by
  rw [isDigits_iff]
  exact ⟨Nat.toDigits_ne_nil, fun c hc => Nat.isDigit_of_mem_toDigits (by decide) (by decide) hc⟩

/-- Only zero starts with a zero. -/
lemma eq_zero_of_toDigits_head {n : Nat} (h : (Nat.toDigits 10 n).head? = some '0') : n = 0 := by
  induction n using Nat.strongRecOn with
  | ind n ih =>
    by_cases hn : n < 10
    · rw [Nat.toDigits_of_lt_base hn] at h
      exact Nat.digitChar_eq_zero.1 (Option.some.inj h)
    · obtain ⟨c, cs, hcs⟩ :=
        List.exists_cons_of_ne_nil (Nat.toDigits_ne_nil (b := 10) (n := n / 10))
      rw [Nat.toDigits_of_base_le (by decide) (by omega), hcs] at h
      have := ih (n / 10) (by omega) (by rw [hcs]; exact h)
      omega

/-- The canonical decimal of an integer: its digits, after a minus sign when it is negative. -/
lemma toList_toString (n : Int) :
    (toString n).toList =
      if 0 ≤ n then Nat.toDigits 10 n.toNat else '-' :: Nat.toDigits 10 (-n).toNat := by
  rw [Int.toString_eq_repr, Int.repr_eq_if]
  split_ifs <;> simp

/-- The decimal of an integer is a numeral of it. -/
theorem numeral_toString (n : Int) : Numeral (toString n).toList n := by
  rw [toList_toString]
  split_ifs with h
  · have := Numeral.unsigned (isDigits_toDigits n.toNat)
    rwa [Nat.ofDigitChars_ten_toDigits, Int.toNat_of_nonneg h] at this
  · have := Numeral.minus (isDigits_toDigits (-n).toNat)
    rwa [Nat.ofDigitChars_ten_toDigits, Int.toNat_of_nonneg (by omega), Int.neg_neg] at this

/-- A canonical decimal consists of digits and perhaps a minus sign. -/
lemma isDigit_or_minus_of_mem_toString {n : Int} {c : Char} (h : c ∈ (toString n).toList) :
    c.isDigit = true ∨ c = '-' := by
  rw [toList_toString] at h
  split_ifs at h
  · exact .inl ((isDigits_iff.1 (isDigits_toDigits _)).2 c h)
  · rcases List.mem_cons.1 h with rfl | h
    · exact .inr rfl
    · exact .inl ((isDigits_iff.1 (isDigits_toDigits _)).2 c h)

end Adventure.Number
