import Adventure.Proofs.Draft.Compile
import Adventure.Proofs.Game.Counts

/-!
# Amounts that are meant

Whatever an author writes as an amount, an item has no limit or a positive count that fits into 64
bits with a sign.

* `Amount.isPositiveInt64_of_resolve` : the amounts that are meant are positive and fit.
* `Item.isPositiveInt64_of_compile` : so does the amount of an item, written or not.
-/

namespace Adventure.Draft

open Number

namespace Amount

/-- An amount that was written as an integer has at most 64 bits. -/
def FitsInt64 : Amount → Prop
  | .integer n => fitsInt64 n = true
  | _          => True

lemma isPositiveInt64_of_ofInt {n : Int} (hn : fitsInt64 n = true) {a : Game.Amount}
    (h : ofInt n = .ok a) : a.IsPositiveInt64 := by
  unfold ofInt at h
  split_ifs at h with hpos
  obtain rfl := Except.ok.inj h
  obtain ⟨-, hmax⟩ : minInt64 ≤ n ∧ n ≤ maxInt64 := by simpa [fitsInt64] using hn
  simp only [Game.Amount.IsPositiveInt64]
  omega

/-- A whole positive number is at least one. -/
lemma wholePart_pos {x : Binary64} (hspecial : x.isSpecial = false)
    (hfractional : x.isFractional = false) (hpos : x.isNonPositive = false) : 0 < x.wholePart := by
  match x with
  | .finite negative m (.ofNat k) =>
    obtain ⟨-, hm⟩ : negative = false ∧ m ≠ 0 := by simpa [Binary64.isNonPositive] using hpos
    exact Nat.mul_pos (Nat.pos_of_ne_zero hm) (Nat.two_pow_pos k)
  | .finite negative m (.negSucc k) =>
    obtain ⟨-, hm⟩ : negative = false ∧ m ≠ 0 := by simpa [Binary64.isNonPositive] using hpos
    have hdvd : Nat.pow 2 (k + 1) ∣ m := by
      apply Nat.dvd_of_mod_eq_zero
      simpa [Binary64.isFractional] using hfractional
    exact Nat.div_pos (Nat.le_of_dvd (Nat.pos_of_ne_zero hm) hdvd) (Nat.two_pow_pos (k + 1))
  | .nan | .infinite _ => cases hspecial

/-- The limit for floating point numbers keeps amounts within 64 bits with a sign. -/
lemma isPositiveInt64_of_ofFloat {x : Binary64} {a : Game.Amount} (h : ofFloat x = .ok a) :
    a.IsPositiveInt64 := by
  unfold ofFloat at h
  split_ifs at h with hinf hspecial hfractional hpos hlimit
  · obtain rfl := Except.ok.inj h
    trivial
  · obtain rfl := Except.ok.inj h
    simp only [Bool.not_eq_true] at hspecial hfractional hpos
    have hone := wholePart_pos hspecial hfractional hpos
    simp only [floatLimit] at hlimit
    simp only [Game.Amount.IsPositiveInt64, maxInt64]
    omega

lemma isPositiveInt64_of_ofText {s : String} {a : Game.Amount} (h : ofText s = .ok a) :
    a.IsPositiveInt64 := by
  unfold ofText at h
  dsimp only at h
  split_ifs at h
  · obtain rfl := Except.ok.inj h
    trivial
  · split at h
    · next n hn => exact isPositiveInt64_of_ofInt (Option.filter_eq_some_iff.1 hn).2 h
    · cases h

/-- The amounts that are meant are positive and fit. -/
theorem isPositiveInt64_of_resolve {written : Amount} (hwritten : written.FitsInt64) {a : Game.Amount}
    (h : written.resolve = .ok a) : a.IsPositiveInt64 := by
  cases written with
  | integer n => exact isPositiveInt64_of_ofInt hwritten h
  | float x => exact isPositiveInt64_of_ofFloat h
  | text s => exact isPositiveInt64_of_ofText h

end Amount

/-- An amount is positive in any case; one is the default. -/
lemma isPositiveInt64_of_resolveAmount {name : String} {written : Option Amount}
    (hwritten : ∀ w ∈ written, w.FitsInt64) {a : Game.Amount}
    (h : resolveAmount name written = .ok a) : a.IsPositiveInt64 := by
  cases written with
  | none =>
    obtain rfl := Except.ok.inj h
    exact Game.Amount.isPositiveInt64_default
  | some w => exact Amount.isPositiveInt64_of_resolve (hwritten w rfl) (mapError_eq_ok_iff.1 h)

/-- The amount of a compiled item is positive and fits. -/
theorem Item.isPositiveInt64_of_compile {i : Item} (hi : ∀ w ∈ i.amount, w.FitsInt64)
    {item : Game.Item} (h : i.compile = .ok item) : item.amount.IsPositiveInt64 := by
  obtain ⟨-, -, -, -, hamount, -⟩ := Item.compile_eq_ok_iff.1 h
  exact isPositiveInt64_of_resolveAmount hi hamount

end Adventure.Draft
