import Adventure.Json.Reading
import Adventure.Json.Value
import Adventure.Proofs.Number.Numeral
import Mathlib.Data.List.TakeDrop
import Mathlib.Data.List.TakeWhile

/-!
# Strings and numbers of written JSON

The reader of JSON takes a string or a number that was written off the front of a text, whatever
comes after it in the text.

* `string?_quote` : a string, with whatever follows its closing quote.
* `take_toString` : an integer of 64 bits, in front of what may follow a value.
-/

namespace Adventure.Json

open Number

/-! ### Strings -/

namespace Reading

/-- The code of a character below 32 gives back its number. -/
lemma readDigitsIn_hexDigit : ∀ n < 32,
    readDigitsIn 16 ['0', '0', hexDigit (n / 16), hexDigit (n % 16)] = some n := by
  decide

/-- A character that is written into a string is one code point. -/
lemma takeString_escapeChar (c : Char) (cs : List Char) :
    takeString (escapeChar c ++ cs) =
      (takeString cs).map fun (ns, rest) => (c.toNat :: ns, rest) := by
  unfold escapeChar
  split_ifs with _ hbackslash _ _ _ _ _ hcontrol
  -- The escapes with a letter, then the other control characters, then what stands for itself.
  any_goals
    subst c
    cases h : takeString cs <;> simp [takeString, h, unescapeChar]
  · have hdigits := readDigitsIn_hexDigit c.toNat hcontrol
    cases h : takeString cs <;> simp [takeString, h, hdigits]
  · cases h : takeString cs <;> simp [takeString, h, hbackslash, hcontrol]

/-- A string is read up to its closing quote: every escape gives back the character. -/
lemma takeString_flatMap_escapeChar (cs rest : List Char) :
    takeString (cs.flatMap escapeChar ++ '"' :: rest) = some (cs.map Char.toNat, rest) := by
  induction cs with
  | nil => rfl
  | cons c cs ih =>
    rw [List.flatMap_cons, List.append_assoc, takeString_escapeChar, ih]
    rfl

/-- A character is no half of a pair of surrogates. -/
lemma isSurrogate_toNat (c : Char) :
    isHighSurrogate c.toNat = false ∧ isLowSurrogate c.toNat = false := by
  have hvalid : c.toNat < 0xD800 ∨ 0xDFFF < c.toNat ∧ c.toNat < 0x110000 := c.valid
  simp only [isHighSurrogate, isLowSurrogate, Bool.and_eq_false_iff, decide_eq_false_iff_not]
  omega

/-- Characters are never halves of surrogates. -/
lemma decodePairs_map_toNat (cs : List Char) : decodePairs (cs.map Char.toNat) = some cs := by
  induction cs with
  | nil => rfl
  | cons c cs ih =>
    obtain ⟨hhigh, hlow⟩ := isSurrogate_toNat c
    cases cs with
    | nil => simp [decodePairs, hhigh, hlow, Char.ofNat_toNat]
    | cons d cs =>
      simp only [List.map_cons] at ih ⊢
      simp [decodePairs, hhigh, hlow, ih, Char.ofNat_toNat]

/-- A string is read back after its opening quote. -/
theorem string?_quote (s : String) (rest : List Char) :
    string? (s.toList.flatMap escapeChar ++ '"' :: rest) = some (some s, rest) := by
  rw [string?, takeString_flatMap_escapeChar]
  simp [decodePairs_map_toNat]

end Reading

/-! ### Numbers -/

/-- What may follow a value: nothing, white space, a comma or a closing bracket. -/
def MayFollow (rest : List Char) : Prop :=
  ∀ c ∈ rest.head?, Reading.isSpace c = true ∨ c ∈ [',', ']', '\x7d']

namespace Numeral

/-- Nothing that may follow a value goes on with a number. -/
lemma not_continues {rest : List Char} (h : MayFollow rest) {c : Char} (hc : c ∈ rest.head?) :
    c.isDigit = false ∧ c ≠ '.' ∧ c ≠ 'e' ∧ c ≠ 'E' := by
  have := h c hc
  simp only [Reading.isSpace, Bool.or_eq_true, beq_iff_eq, List.mem_cons, List.not_mem_nil,
    or_false] at this
  rcases this with (((rfl | rfl) | rfl) | rfl) | rfl | rfl | rfl <;> decide

lemma span_isDigit {ds rest : List Char} (hds : ∀ c ∈ ds, c.isDigit = true) (h : MayFollow rest) :
    (ds ++ rest).span Char.isDigit = (ds, rest) := by
  have hrest : rest.takeWhile Char.isDigit = [] ∧ rest.dropWhile Char.isDigit = rest := by
    cases rest with
    | nil => exact ⟨rfl, rfl⟩
    | cons c rest =>
      have hc := (not_continues h (c := c) rfl).1
      simp [hc]
  rw [List.span_eq_takeWhile_dropWhile, List.takeWhile_append_of_pos hds,
    List.dropWhile_append_of_pos hds, hrest.1, hrest.2, List.append_nil]

/-- A decimal number is read up to its end, and what may follow it is left. -/
lemma takeWhole_toDigits (n : Nat) {rest : List Char} (h : MayFollow rest) :
    takeWhole (Nat.toDigits 10 n ++ rest) = some (Nat.toDigits 10 n, rest) := by
  obtain ⟨hne, hds⟩ := isDigits_iff.1 (isDigits_toDigits n)
  simp only [takeWhole, span_isDigit hds h]
  split
  · next hnil => exact absurd hnil hne
  · next c cs hzero =>
    have hn := eq_zero_of_toDigits_head (n := n) (by rw [hzero]; rfl)
    simp [hn] at hzero
  · rfl

lemma takePart_of_mayFollow {rest : List Char} (h : MayFollow rest) :
    takePart rest = some (none, rest) := by
  unfold takePart
  split
  · next cs => exact absurd rfl (not_continues h (c := '.') rfl).2.1
  · rfl

lemma takeExponent_of_mayFollow {rest : List Char} (h : MayFollow rest) :
    takeExponent rest = some (none, rest) := by
  cases rest with
  | nil => rfl
  | cons c cs =>
    obtain ⟨-, -, he, hE⟩ := not_continues h (c := c) rfl
    simp [takeExponent, he, hE]

/-- An integer of 64 bits is read back. -/
theorem take_toString {n : Nat} (hn : (n : Int) ≤ maxUInt64) {rest : List Char}
    (h : MayFollow rest) :
    take ((toString n).toList ++ rest) = some (.integer n, rest) := by
  obtain ⟨c, cs, hcs⟩ := List.exists_cons_of_ne_nil (Nat.toDigits_ne_nil (b := 10) (n := n))
  -- A natural has no sign, and its digits are all taken at once.
  have hminus : c ≠ '-' := by
    rintro rfl
    have hc := (isDigits_iff.1 (isDigits_toDigits n)).2 '-' (by simp [hcs])
    exact absurd hc (by decide)
  have hparts : takeParts (Nat.toDigits 10 n ++ rest) =
      some (⟨false, Nat.toDigits 10 n, none, none⟩, rest) := by
    have hwhole := takeWhole_toDigits n h
    rw [hcs] at hwhole ⊢
    rw [List.cons_append] at hwhole ⊢
    simp [takeParts, hminus, hwhole, takePart_of_mayFollow h, takeExponent_of_mayFollow h]
  have hvalue : digitsValue (Nat.toDigits 10 n) = n := by
    rw [digitsValue_eq, Nat.ofDigitChars_ten_toDigits]
  have hfits : n ≤ maxUInt64.toNat := by omega
  rw [Nat.toString_eq_repr]
  simp [take, hparts, Parts.value, hvalue, hfits]

end Numeral

end Adventure.Json
