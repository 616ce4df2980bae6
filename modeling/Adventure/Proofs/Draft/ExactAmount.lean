import Adventure.Proofs.Draft.Amount
import Adventure.Proofs.Number.Canonical
import Adventure.Proofs.Number.Value
import Adventure.Proofs.Text.Lines

/-!
# Amounts and what is written

An amount is never rounded: the count that is meant is the number that was written, and the spellings
of one number mean the same.

* `Amount.Denotes` : the number that was written, with the exact value of a floating point number.
* `Amount.ofFloat_of_integer`, `Amount.ofText_of_numeral` : floating point numbers and texts mean what
  the integer means that they write.
* `resolveAmount_exact` : what becomes of everything that may be written.
-/

namespace Adventure.Draft

open Number

namespace Amount

variable {n : Int} {k : Nat} {x : Binary64} {q : ℚ} {s : String} {cs : List Char}

/-- The number that was written. -/
inductive Denotes : Amount → ℚ → Prop
  | integer (n : Int) : Denotes (.integer n) n
  | float {x : Binary64} {q : ℚ} (h : x.value = some q) : Denotes (.float x) q
  | text {s : String} {cs : List Char} {n : Int} (hs : Text.IsPadded cs s.toList)
      (hn : Numeral cs n) : Denotes (.text s) n

/-- No limit was written. -/
inductive MeansUnlimited : Amount → Prop
  | float : MeansUnlimited (.float (.infinite false))
  | text {s : String} (hs : Text.IsPadded "inf".toList s.toList) : MeansUnlimited (.text s)

/-! ### Integers -/

lemma ofInt_eq_ok_count_iff : ofInt n = .ok (.count k) ↔ 0 < n ∧ n = k := by
  rw [ofInt]
  split_ifs with hn
  · rw [Except.ok.injEq, Game.Amount.count.injEq]
    omega
  · simp [hn]

lemma ofInt_ne_ok_unlimited (n : Int) : ofInt n ≠ .ok .unlimited := by
  rw [ofInt]
  split_ifs <;> simp

/-! ### Floating point numbers -/

/-- A number with a value is checked for a fraction, for its sign and for its size. -/
lemma ofFloat_of_value (h : x.value = some q) :
    ofFloat x =
      if x.isFractional then .error (.fractional x.toPositional)
      else if x.isNonPositive then .error .nonPositive
      else if x.wholePart < floatLimit then .ok (.count x.wholePart)
      else .error (.invalid x.toPositional) := by
  have hinf : x ≠ .infinite false := by
    rintro rfl
    cases h
  rw [ofFloat, if_neg hinf, if_neg (by rw [Binary64.isSpecial_eq_false h]; decide)]

/-- A whole number means what the integer means, as long as it is not too large. -/
lemma ofFloat_of_integer (h : x.value = some n) :
    ofFloat x = if n < 9 * 10 ^ 18 then ofInt n else .error (.invalid x.toPositional) := by
  have hwhole : ¬ x.isFractional = true := fun hfractional =>
    (Binary64.isFractional_iff h).1 hfractional n rfl
  rw [ofFloat_of_value h, if_neg hwhole]
  by_cases hn : 0 < n
  · have hpos : ¬ x.isNonPositive = true := by
      rw [Binary64.isNonPositive_iff h, not_le]
      exact Int.cast_pos.2 hn
    have hpart := Binary64.wholePart_eq h hn
    rw [if_neg hpos, ofInt, if_pos hn, ← hpart, Int.toNat_natCast]
    refine if_congr ?_ rfl rfl
    rw [floatLimit]
    omega
  · have hnonpos : x.isNonPositive = true := by
      rw [Binary64.isNonPositive_iff h]
      exact Int.cast_nonpos.2 (not_lt.1 hn)
    rw [if_pos hnonpos, if_pos (by omega), ofInt, if_neg hn]

/-- A number that is not whole is refused as such. -/
lemma ofFloat_of_fraction (h : x.value = some q) (hq : ∀ n : Int, q ≠ n) :
    ofFloat x = .error (.fractional x.toPositional) := by
  rw [ofFloat_of_value h, if_pos ((Binary64.isFractional_iff h).2 hq)]

/-- A count that a floating point number means is its value. -/
lemma value_eq_of_ofFloat (h : ofFloat x = .ok (.count k)) : x.value = some (k : ℚ) := by
  cases hx : x.value with
  | none =>
    match x with
    | .nan | .infinite true | .infinite false => cases h
  | some q =>
    by_cases hq : ∃ n : Int, q = n
    · obtain ⟨n, rfl⟩ := hq
      rw [ofFloat_of_integer hx] at h
      split_ifs at h
      rw [(ofInt_eq_ok_count_iff.1 h).2, Int.cast_natCast]
    · rw [ofFloat_of_fraction hx (not_exists.1 hq)] at h
      cases h

/-- Of all floating point numbers only positive infinity stands for no limit. -/
lemma ofFloat_eq_ok_unlimited_iff : ofFloat x = .ok .unlimited ↔ x = .infinite false := by
  constructor
  · intro h
    unfold ofFloat at h
    split_ifs at h with hinf
    · exact hinf
    · cases h
  · rintro rfl
    rfl

/-! ### Texts -/

lemma isBlankChar_of_isDigit {c : Char} (h : c.isDigit = true) : Text.isBlankChar c = false := by
  have hrange : 48 ≤ c.toNat ∧ c.toNat ≤ 57 := Char.isDigit_iff_toNat.1 h
  simp only [Text.isBlankChar, Bool.or_eq_false_iff, Bool.and_eq_false_iff, decide_eq_false_iff_not,
    beq_eq_false_iff_ne]
  omega

/-- There is no white space in a numeral. -/
lemma isBlankChar_of_numeral (h : Numeral cs n) : ∀ c ∈ cs, Text.isBlankChar c = false := by
  have hdigits : ∀ {ds : List Char}, isDigits ds = true → ∀ c ∈ ds, Text.isBlankChar c = false :=
    fun hds c hc => isBlankChar_of_isDigit ((isDigits_iff.1 hds).2 c hc)
  cases h with
  | unsigned h => exact hdigits h
  | plus h => exact List.forall_mem_cons.2 ⟨by decide, hdigits h⟩
  | minus h => exact List.forall_mem_cons.2 ⟨by decide, hdigits h⟩

lemma not_numeral_unlimitedText (n : Int) : ¬ Numeral Game.Amount.unlimitedText.toList n := by
  rw [← readInteger_eq_some_iff]
  have hnone : readInteger Game.Amount.unlimitedText.toList = none := by decide
  simp [hnone]

/-- White space, a sign that may be left out and zeros in front do not matter. -/
lemma ofText_of_numeral (hs : Text.IsPadded cs s.toList) (hn : Numeral cs n)
    (hfits : fitsInt64 n = true) : ofText s = ofInt n := by
  have htrim : Text.trim s.toList = cs := (Text.trim_eq_iff (isBlankChar_of_numeral hn)).2 hs
  have hinf : cs ≠ Game.Amount.unlimitedText.toList := by
    rintro rfl
    exact not_numeral_unlimitedText n hn
  have hread : readInt64 cs = some n :=
    readInt64_eq_some_iff.2 ⟨hn, by simpa [fitsInt64] using hfits⟩
  rw [ofText, htrim]
  simp only [if_neg hinf, hread]

lemma trim_eq_unlimitedText_iff :
    Text.trim s.toList = Game.Amount.unlimitedText.toList ↔
      Text.IsPadded "inf".toList s.toList := by
  apply Text.trim_eq_iff
  show ∀ c ∈ ['i', 'n', 'f'], Text.isBlankChar c = false
  simp only [List.forall_mem_cons]
  exact ⟨by decide, by decide, by decide, nofun⟩

/-- A text is refused unless it is padded with white space from the word for no limit, or from a
numeral that fits. -/
lemma ofText_eq_error (hinf : ¬ Text.IsPadded "inf".toList s.toList)
    (hnumeral : ∀ n cs, fitsInt64 n = true → Numeral cs n → ¬ Text.IsPadded cs s.toList) :
    ofText s = .error (.invalid s) := by
  have hread : readInt64 (Text.trim s.toList) = none := by
    rw [Option.eq_none_iff_forall_ne_some]
    intro n hn
    obtain ⟨hn, hmin, hmax⟩ := readInt64_eq_some_iff.1 hn
    exact hnumeral n _ (by simp [fitsInt64, hmin, hmax]) hn (Text.isPadded_trim _)
  rw [ofText]
  simp only [if_neg (mt trim_eq_unlimitedText_iff.1 hinf), hread]

/-- What a text means is no limit or the number that it writes. -/
lemma ofText_eq_ok {a : Game.Amount} (h : ofText s = .ok a) :
    a = .unlimited ∧ Text.IsPadded "inf".toList s.toList ∨
      ∃ n cs, Text.IsPadded cs s.toList ∧ Numeral cs n ∧ ofInt n = .ok a := by
  unfold ofText at h
  dsimp only at h
  split_ifs at h with hinf
  · obtain rfl := Except.ok.inj h
    exact .inl ⟨rfl, trim_eq_unlimitedText_iff.1 hinf⟩
  · split at h
    · next n hn =>
      exact .inr ⟨n, _, Text.isPadded_trim _, (readInt64_eq_some_iff.1 hn).1, h⟩
    · cases h

/-! ### Whatever is written -/

/-- A count is the number that was written. -/
theorem denotes_of_resolve {written : Amount} (h : written.resolve = .ok (.count k)) :
    written.Denotes k := by
  cases written with
  | integer n =>
    obtain ⟨-, rfl⟩ := ofInt_eq_ok_count_iff.1 h
    exact_mod_cast Denotes.integer k
  | float x => exact .float (value_eq_of_ofFloat h)
  | text s =>
    obtain ⟨⟨⟩, -⟩ | ⟨n, cs, hs, hn, h⟩ := ofText_eq_ok h
    obtain ⟨-, rfl⟩ := ofInt_eq_ok_count_iff.1 h
    exact_mod_cast Denotes.text hs hn

/-- The amounts without limit are those that were meant so. -/
theorem resolve_eq_ok_unlimited_iff {written : Amount} :
    written.resolve = .ok .unlimited ↔ written.MeansUnlimited := by
  constructor
  · intro h
    cases written with
    | integer n => exact absurd h (ofInt_ne_ok_unlimited n)
    | float x =>
      obtain rfl := ofFloat_eq_ok_unlimited_iff.1 h
      exact .float
    | text s =>
      obtain ⟨-, hs⟩ | ⟨n, cs, -, -, h⟩ := ofText_eq_ok h
      · exact .text hs
      · exact absurd h (ofInt_ne_ok_unlimited n)
  · rintro (_ | hs)
    · rfl
    · simp only [resolve, ofText, if_pos (trim_eq_unlimitedText_iff.2 hs)]

end Amount

/-- What becomes of everything that may be written as an amount of the item `name`. A count is at
least one, fits into 64 bits with a sign and is the number that was written; without limit is only
what was meant so. An integer is a count if it is positive; a text that writes it means the same, and
so does a floating point number of that value below `9 · 10 ^ 18`. The rest is fractional or
invalid. -/
theorem resolveAmount_exact (name : String) :
    (∀ (written : Amount) (k : Nat), written.FitsInt64 →
      resolveAmount name (some written) = .ok (.count k) →
        1 ≤ k ∧ (k : Int) ≤ maxInt64 ∧ written.Denotes k) ∧
    (∀ written : Amount,
      resolveAmount name (some written) = .ok .unlimited ↔ written.MeansUnlimited) ∧
    (∀ n : Int, resolveAmount name (some (.integer n)) =
      if 0 < n then .ok (.count n.toNat) else .error (.amount name .nonPositive)) ∧
    (∀ (s : String) (cs : List Char) (n : Int), Text.IsPadded cs s.toList → Numeral cs n →
      fitsInt64 n = true →
        resolveAmount name (some (.text s)) = resolveAmount name (some (.integer n))) ∧
    (∀ (x : Binary64) (n : Int), x.value = some (n : ℚ) → n < 9 * 10 ^ 18 →
      resolveAmount name (some (.float x)) = resolveAmount name (some (.integer n))) ∧
    (∀ (x : Binary64) (q : ℚ), x.value = some q → (∀ n : Int, q ≠ n) →
      resolveAmount name (some (.float x)) =
        .error (.amount name (.fractional x.toPositional))) ∧
    (∀ x : Binary64, (x = .nan ∨ x = .infinite true ∨
        ∃ n : Int, x.value = some (n : ℚ) ∧ 9 * 10 ^ 18 ≤ n) →
      resolveAmount name (some (.float x)) = .error (.amount name (.invalid x.toPositional))) ∧
    ∀ s : String, ¬ Text.IsPadded "inf".toList s.toList →
      (∀ n cs, fitsInt64 n = true → Numeral cs n → ¬ Text.IsPadded cs s.toList) →
        resolveAmount name (some (.text s)) = .error (.amount name (.invalid s)) := by
  have hfloat : ∀ {x : Binary64} {r}, Amount.ofFloat x = r →
      resolveAmount name (some (.float x)) = r.mapError (.amount name) := by
    rintro x r rfl
    rfl
  refine ⟨?_, ?_, ?_, ?_, ?_, ?_, ?_, ?_⟩
  · intro written k hfits h
    have hresolve := mapError_eq_ok_iff.1 h
    have hrange : 1 ≤ k ∧ (k : Int) ≤ maxInt64 := Amount.isPositiveInt64_of_resolve hfits hresolve
    exact ⟨hrange.1, hrange.2, Amount.denotes_of_resolve hresolve⟩
  · intro written
    exact mapError_eq_ok_iff.trans Amount.resolve_eq_ok_unlimited_iff
  · intro n
    rw [resolveAmount, Amount.resolve, Amount.ofInt]
    split_ifs <;> rfl
  · intro s cs n hs hn hfits
    rw [resolveAmount, Amount.resolve, Amount.ofText_of_numeral hs hn hfits]
    rfl
  · intro x n hx hn
    rw [hfloat (Amount.ofFloat_of_integer hx), if_pos hn]
    rfl
  · intro x q hx hq
    exact hfloat (Amount.ofFloat_of_fraction hx hq)
  · rintro x (rfl | rfl | ⟨n, hx, hn⟩)
    · rfl
    · rfl
    · rw [hfloat (Amount.ofFloat_of_integer hx), if_neg (not_lt.2 hn)]
      rfl
  · intro s hinf hnumeral
    rw [resolveAmount, Amount.resolve, Amount.ofText_eq_error hinf hnumeral]
    rfl

/-- Seven written as a text and as a floating point number, two and a half, a number that is too
large, and a word. -/
theorem resolveAmount_exact_seven :
    resolveAmount "coin" (some (.text " +007\t")) = .ok (.count 7) ∧
    resolveAmount "coin" (some (.float (.finite false (7 * 2 ^ 50) (-50)))) = .ok (.count 7) ∧
    (1 ≤ 7 ∧ ((7 : Nat) : Int) ≤ maxInt64 ∧ Amount.Denotes (.text " +007\t") ((7 : Nat) : ℚ)) ∧
    resolveAmount "coin" (some (.float (.finite true (5 * 2 ^ 50) (-51)))) =
      .error (.amount "coin" (.fractional "-2.5")) ∧
    resolveAmount "coin" (some (.float (.finite false (5 ^ 19 * 2 ^ 8) 11))) =
      .error (.amount "coin" (.invalid "10000000000000000000")) ∧
    resolveAmount "coin" (some (.text "lots")) = .error (.amount "coin" (.invalid "lots")) := by
  obtain ⟨hcount, -, hinteger, htext, hfloat, hfraction, hinvalid, hword⟩ :=
    resolveAmount_exact "coin"
  have hseven : resolveAmount "coin" (some (.text " +007\t")) = .ok (.count 7) :=
    (htext _ "+007".toList 7 ⟨[' '], ['\t'], by decide, by decide, by decide⟩
      (readInteger_eq_some_iff.1 (by decide)) (by decide)).trans (hinteger 7)
  refine ⟨hseven, ?_, hcount _ 7 trivial hseven, ?_, ?_, ?_⟩
  · refine (hfloat _ 7 ?_ (by decide)).trans (hinteger 7)
    norm_num [Binary64.value, Binary64.magnitude]
  · refine (hfraction _ (-(5 / 2)) ?_ ?_).trans (by decide +kernel)
    · norm_num [Binary64.value, Binary64.magnitude]
    · -- Twice the number is odd, and so the number is not whole.
      intro n hn
      have hdouble : (-5 : ℚ) = (2 * n : Int) := by
        rw [Int.cast_mul, ← hn]
        norm_num
      have : (-5 : Int) = 2 * n := by exact_mod_cast hdouble
      omega
  · refine (hinvalid _ (.inr (.inr ⟨10 ^ 19, ?_, by decide⟩))).trans (by decide +kernel)
    norm_num [Binary64.value, Binary64.magnitude]
  · refine hword _ (by rw [← Amount.trim_eq_unlimitedText_iff]; decide) ?_
    intro n cs _ hn hs
    have htrim : Text.trim "lots".toList = cs :=
      (Text.trim_eq_iff (Amount.isBlankChar_of_numeral hn)).2 hs
    have hnone : readInteger (Text.trim "lots".toList) = none := by decide
    rw [← readInteger_eq_some_iff, ← htrim, hnone] at hn
    cases hn

end Adventure.Draft
