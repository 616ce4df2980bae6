import Adventure.Proofs.Number.Canonical
import Adventure.Yaml.Plain
import Adventure.Yaml.Shape

/-!
# Integers in YAML

An integer is written as a scalar without quotes, and its canonical decimal is one of the ways to
write it. Where a name is expected, an integer of 64 bits with a sign becomes that decimal again.

* `plainValue_toString` : the canonical decimal of an integer is read as the integer.
* `exists_plainValue_eq_integer_iff` : which integers are values.
* `Decoder.name_integer_of_fitsInt64`, `Decoder.name_integer_injective` : integers as names.
-/

namespace Adventure.Yaml

open Number

variable {cs ds : List Char} {m n : Int}

/-! ### Digits -/

lemma digitIn_ten {c : Char} (h : c.isDigit = true) :
    digitIn 10 c = some (c.toNat - '0'.toNat) := by
  rw [digitIn, hexDigitValue, if_pos h, Option.filter_some,
    if_pos (decide_eq_true (sub_lt_ten_of_isDigit h))]

/-- Decimal digits denote the same number for the reader of any base. -/
lemma digitsFrom_ten (h : ∀ c ∈ cs, c.isDigit = true) (acc : Nat) :
    digitsFrom 10 acc cs = some (Nat.ofDigitChars 10 cs acc) := by
  induction cs generalizing acc with
  | nil => rw [digitsFrom, Nat.ofDigitChars_nil]
  | cons c cs ih =>
    obtain ⟨hc, hcs⟩ := List.forall_mem_cons.1 h
    rw [digitsFrom, digitIn_ten hc, Option.bind_some, ih hcs, Nat.ofDigitChars_cons]

/-- The second character of a prefix for another base is no digit. -/
lemma readRadix_of_isDigits (h : isDigits ds = true) : readRadix ds = none := by
  have hds := (isDigits_iff.1 h).2
  unfold readRadix
  split
  · exact absurd (hds 'x' (by simp)) (by decide)
  · exact absurd (hds 'o' (by simp)) (by decide)
  · exact absurd (hds 'b' (by simp)) (by decide)
  · rfl

lemma dropSign_of_isDigits (h : isDigits ds = true) : dropSign ds = ds := by
  unfold dropSign
  split
  · exact absurd (isDigits_head h) (by decide)
  · exact absurd (isDigits_head h) (by decide)
  · rfl

lemma hasLeadingZero_toDigits (n : Nat) : hasLeadingZero (Nat.toDigits 10 n) = false := by
  rw [hasLeadingZero, dropSign_of_isDigits (isDigits_toDigits n)]
  by_cases h : (Nat.toDigits 10 n).head? = some '0'
  · rw [eq_zero_of_toDigits_head h]
    decide
  · simp [h]

lemma readNatural_toDigits (n : Nat) : readNatural (Nat.toDigits 10 n) = some n := by
  have hdigits := isDigits_iff.1 (isDigits_toDigits n)
  rw [readNatural, readRadix_of_isDigits (isDigits_toDigits n), hasLeadingZero_toDigits,
    if_neg Bool.false_ne_true, Option.none_or, readDigitsIn, if_neg (by simp),
    digitsFrom_ten hdigits.2, Nat.ofDigitChars_ten_toDigits]

/-! ### Canonical decimals as scalars -/

/-- The decimal of an integer is read as the integer. -/
lemma readPlainInteger_toString (n : Int) : readPlainInteger (toString n).toList = some n := by
  rw [toList_toString]
  split_ifs with hn
  · have hdigits := isDigits_toDigits n.toNat
    have hread := readNatural_toDigits n.toNat
    generalize Nat.toDigits 10 n.toNat = ds at hdigits hread
    unfold readPlainInteger
    split
    · exact absurd (isDigits_head hdigits) (by decide)
    · exact absurd (isDigits_head hdigits) (by decide)
    · rw [hread]
      exact congrArg some (Int.toNat_of_nonneg hn)
  · rw [readPlainInteger, readNatural_toDigits]
    exact congrArg some (show -((-n).toNat : Int) = n by omega)

/-- A text of digits and minus signs is no word. -/
lemma ne_of_forall_mem {s word : String} (hs : ∀ c ∈ s.toList, c.isDigit = true ∨ c = '-')
    (h : ∃ c ∈ word.toList, ¬ (c.isDigit = true ∨ c = '-')) : s ≠ word := by
  rintro rfl
  obtain ⟨c, hc, hne⟩ := h
  exact hne (hs c hc)

lemma isNullText_eq_false {s : String} (hs : ∀ c ∈ s.toList, c.isDigit = true ∨ c = '-') :
    isNullText s = false := by
  simp [isNullText, ne_of_forall_mem hs]

/-- A word for a truth value has a letter in it. -/
lemma readBoolean_eq_none {s : String} (hs : ∀ c ∈ s.toList, c.isDigit = true ∨ c = '-') :
    readBoolean s = none := by
  simp [readBoolean, ne_of_forall_mem hs]

/-- The canonical decimal of an integer is read as the integer. -/
theorem plainValue_toString (hn : fitsWord64 n = true) :
    plainValue (toString n) = some (.integer n) := by
  have hchars : ∀ c ∈ (toString n).toList, c.isDigit = true ∨ c = '-' :=
    fun c => isDigit_or_minus_of_mem_toString
  have hempty : (toString n).isEmpty = false :=
    Bool.eq_false_iff.2 fun h => toString_ne_empty n (String.isEmpty_iff.1 h)
  simp only [plainValue, hempty, isNullText_eq_false hchars, readBoolean_eq_none hchars,
    classifyInteger, readPlainInteger_toString, hn, Bool.or_self, Bool.false_eq_true, if_false,
    if_true]

lemma fitsWord64_of_classifyInteger (h : classifyInteger cs = .fits n) : fitsWord64 n = true := by
  unfold classifyInteger at h
  split at h
  · cases h
  · split_ifs at h with hfits
    cases h
    exact hfits

/-- An integer that is read from a text fits into 64 bits with or without a sign. -/
lemma fitsWord64_of_plainValue {s : String} (h : plainValue s = some (.integer n)) :
    fitsWord64 n = true := by
  unfold plainValue at h
  split at h
  · cases h
  · split at h
    · cases h
    · split at h
      · next hm =>
        cases h
        exact fitsWord64_of_classifyInteger hm
      · cases h
      · split at h <;> cases h

/-- The integers that are values are those that fit into 64 bits, with or without a sign. -/
theorem exists_plainValue_eq_integer_iff :
    (∃ s, plainValue s = some (.integer n)) ↔ fitsWord64 n = true := by
  constructor
  · rintro ⟨s, h⟩
    exact fitsWord64_of_plainValue h
  · intro hn
    exact ⟨toString n, plainValue_toString hn⟩

def Value.integer? : Value → Option Int
  | .integer n => some n
  | _          => none

@[simp]
lemma Value.integer?_eq_some_iff {v : Value} : v.integer? = some n ↔ v = .integer n := by
  cases v <;> simp [integer?]

/-! ### Integers as names -/

lemma fitsWord64_of_fitsInt64 (hn : fitsInt64 n = true) : fitsWord64 n = true := by
  simp only [fitsInt64, fitsWord64, Bool.and_eq_true, decide_eq_true_eq] at hn ⊢
  exact ⟨hn.1, Int.le_trans hn.2 (by decide)⟩

/-- An integer with a sign of 64 bits is a name, written in decimal. -/
lemma Decoder.name_integer_of_fitsInt64 (hn : fitsInt64 n = true) :
    Decoder.name (.integer n) = .ok (toString n) := by
  rw [Decoder.name, if_pos hn]

/-- Different integers of 64 bits with a sign become different names. -/
lemma Decoder.name_integer_injective (hm : fitsInt64 m = true) (hn : fitsInt64 n = true)
    (h : Decoder.name (.integer m) = Decoder.name (.integer n)) : m = n := by
  rw [name_integer_of_fitsInt64 hm, name_integer_of_fitsInt64 hn] at h
  exact toString_injective (Except.ok.inj h)

end Adventure.Yaml
