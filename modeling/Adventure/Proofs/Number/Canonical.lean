import Adventure.Proofs.Number.Numeral

/-!
# Canonical decimals

Of all numerals of an integer one is canonical: it has no zero that could be left out and no plus
sign, and zero has no sign at all. It is the decimal in which the integer is written.

* `isCanonical_and_numeral_iff` : the canonical numeral of an integer is the one that is written.
-/

namespace Adventure.Number

variable {cs ds : List Char} {m n : Int}

/-- The text is zero, or digits of which the first one is not zero, perhaps after a minus sign. -/
inductive IsCanonical : List Char → Prop
  | zero : IsCanonical ['0']
  | positive {ds : List Char} (h : isDigits ds = true) (hhead : ds.head? ≠ some '0') :
      IsCanonical ds
  | negative {ds : List Char} (h : isDigits ds = true) (hhead : ds.head? ≠ some '0') :
      IsCanonical ('-' :: ds)

/-- A text is a numeral of one integer only. -/
lemma Numeral.unique (h : Numeral cs n) (h' : Numeral cs m) : n = m := by
  rw [← readInteger_eq_some_iff] at h h'
  exact Option.some.inj (h.symm.trans h')

/-! ### Digits without a zero at the front -/

lemma sub_lt_ten_of_isDigit {c : Char} (h : c.isDigit = true) : c.toNat - '0'.toNat < 10 := by
  have hmax : c.toNat ≤ '0'.toNat + 9 := (Char.isDigit_iff_toNat.1 h).2
  omega

/-- A digit is the decimal of its value. -/
lemma toDigits_of_isDigit {c : Char} (h : c.isDigit = true) :
    Nat.toDigits 10 (c.toNat - '0'.toNat) = [c] := by
  have hlt := sub_lt_ten_of_isDigit h
  have hmin : '0'.toNat ≤ c.toNat := (Char.isDigit_iff_toNat.1 h).1
  rw [Nat.toDigits_of_lt_base hlt, List.singleton_inj, ← Char.toNat_inj,
    Nat.toNat_digitChar_of_lt_ten hlt]
  show '0'.toNat + _ = _
  omega

/-- Digits put behind a number other than zero are put behind its own digits. -/
lemma toDigits_ofDigitChars_append {acc : Nat} (hacc : 0 < acc)
    (h : ∀ c ∈ cs, c.isDigit = true) :
    Nat.toDigits 10 (Nat.ofDigitChars 10 cs acc) = Nat.toDigits 10 acc ++ cs := by
  induction cs generalizing acc with
  | nil => rw [Nat.ofDigitChars_nil, List.append_nil]
  | cons c cs ih =>
    obtain ⟨hc, hcs⟩ := List.forall_mem_cons.1 h
    rw [Nat.ofDigitChars_cons, ih (by omega) hcs,
      ← Nat.toDigits_append_toDigits (by decide) hacc (sub_lt_ten_of_isDigit hc),
      toDigits_of_isDigit hc, List.append_assoc, List.singleton_append]

/-- Digits without a zero at the front are those in which their number is written. -/
lemma toDigits_ofDigitChars (h : isDigits ds = true) (hhead : ds.head? ≠ some '0') :
    Nat.toDigits 10 (Nat.ofDigitChars 10 ds 0) = ds := by
  obtain ⟨hne, hds⟩ := isDigits_iff.1 h
  obtain ⟨c, cs, rfl⟩ := List.exists_cons_of_ne_nil hne
  obtain ⟨hc, hcs⟩ := List.forall_mem_cons.1 hds
  have hpos : 0 < c.toNat - '0'.toNat := by
    apply Nat.pos_of_ne_zero
    intro hzero
    have hdigit := toDigits_of_isDigit hc
    rw [hzero, Nat.toDigits_zero, List.singleton_inj] at hdigit
    exact hhead (by rw [← hdigit, List.head?_cons])
  rw [Nat.ofDigitChars_cons, Nat.mul_zero, Nat.zero_add, toDigits_ofDigitChars_append hpos hcs,
    toDigits_of_isDigit hc, List.singleton_append]

/-- A number is positive if it does not start with zero. -/
lemma ofDigitChars_pos (h : isDigits ds = true) (hhead : ds.head? ≠ some '0') :
    0 < Nat.ofDigitChars 10 ds 0 := by
  apply Nat.pos_of_ne_zero
  intro hzero
  have hdigits := toDigits_ofDigitChars h hhead
  rw [hzero, Nat.toDigits_zero] at hdigits
  exact hhead (by rw [← hdigits, List.head?_cons])

/-! ### The numeral that is written -/

lemma isCanonical_toDigits (n : Nat) : IsCanonical (Nat.toDigits 10 n) := by
  by_cases h : (Nat.toDigits 10 n).head? = some '0'
  · rw [eq_zero_of_toDigits_head h]
    exact .zero
  · exact .positive (isDigits_toDigits n) h

/-- Integers are written in canonical decimals. -/
theorem isCanonical_toString (n : Int) : IsCanonical (toString n).toList := by
  rw [toList_toString]
  split_ifs with hn
  · exact isCanonical_toDigits _
  · refine .negative (isDigits_toDigits _) fun hhead => ?_
    have := eq_zero_of_toDigits_head hhead
    omega

/-- The canonical numeral of an integer is the one in which it is written. -/
theorem isCanonical_and_numeral_iff :
    IsCanonical cs ∧ Numeral cs n ↔ cs = (toString n).toList := by
  constructor
  · rintro ⟨hcs, hn⟩
    cases hcs with
    | zero =>
      obtain rfl : n = 0 := hn.unique (.unsigned (by decide))
      rfl
    | positive h hhead =>
      obtain rfl := hn.unique (.unsigned h)
      rw [toList_toString, if_pos (by omega), Int.toNat_natCast, toDigits_ofDigitChars h hhead]
    | @negative ds h hhead =>
      obtain rfl := hn.unique (.minus h)
      have hpos := ofDigitChars_pos h hhead
      rw [toList_toString, if_neg (by omega), Int.neg_neg, Int.toNat_natCast,
        toDigits_ofDigitChars h hhead]
  · rintro rfl
    exact ⟨isCanonical_toString n, numeral_toString n⟩

lemma toString_ne_empty (n : Int) : toString n ≠ "" := by
  intro h
  have hread := readInteger_eq_some_iff.2 (numeral_toString n)
  rw [h] at hread
  cases hread

/-- Different integers are written differently. -/
lemma toString_injective (h : toString m = toString n) : m = n := by
  have hn := numeral_toString n
  rw [← h] at hn
  exact (numeral_toString m).unique hn

end Adventure.Number
