import Adventure.Number.Binary64
import Mathlib.Algebra.Order.Field.Power
import Mathlib.Data.Nat.Cast.Field
import Mathlib.Tactic.Linarith
import Mathlib.Tactic.Positivity

/-!
# The values of floating point numbers

Every finite number is a rational number. The tests on its mantissa and exponent say how that number
lies to the integers and to zero, with no rounding in between.

* `isFractional_iff` : a number has a fraction if its value is no integer.
* `isNonPositive_iff` : a number is zero or negative if its value is.
* `wholePart_eq` : the whole part of a positive integer is the integer.
-/

namespace Adventure.Number.Binary64

variable {x : Binary64} {q : ℚ} {negative : Bool} {m : Nat} {e : Int}

def magnitude (m : Nat) (e : Int) : ℚ :=
  m * 2 ^ e

/-- The rational number that a finite number is. -/
def value : Binary64 → Option ℚ
  | .finite true m e  => some (-magnitude m e)
  | .finite false m e => some (magnitude m e)
  | _                 => none

lemma isSpecial_eq_false (h : x.value = some q) : x.isSpecial = false := by
  cases x with
  | finite negative m e => rfl
  | nan | infinite negative => cases h

/-! ### Magnitudes -/

lemma magnitude_nonneg (m : Nat) (e : Int) : 0 ≤ magnitude m e :=
  mul_nonneg (Nat.cast_nonneg m) (zpow_nonneg zero_le_two e)

lemma magnitude_eq_zero_iff : magnitude m e = 0 ↔ m = 0 := by
  rw [magnitude, mul_eq_zero, Nat.cast_eq_zero, or_iff_left (zpow_ne_zero e two_ne_zero)]

lemma magnitude_ofNat (m k : Nat) : magnitude m (.ofNat k) = (m * Nat.pow 2 k : Nat) := by
  rw [magnitude, Int.ofNat_eq_natCast, zpow_natCast, Nat.cast_mul]
  exact congrArg _ (Nat.cast_pow 2 k).symm

lemma magnitude_negSucc (m k : Nat) :
    magnitude m (.negSucc k) * (Nat.pow 2 (k + 1) : Nat) = m := by
  have hpow : ((Nat.pow 2 (k + 1) : Nat) : ℚ) = 2 ^ (k + 1) := Nat.cast_pow 2 (k + 1)
  rw [magnitude, zpow_negSucc, hpow, mul_assoc, inv_mul_cancel₀ (by positivity), mul_one]

/-- A magnitude without fraction is the whole part. -/
lemma magnitude_eq_wholePart (h : (finite negative m e).isFractional = false) :
    magnitude m e = (finite negative m e).wholePart := by
  match e with
  | .ofNat k => exact magnitude_ofNat m k
  | .negSucc k =>
    have hdvd : Nat.pow 2 (k + 1) ∣ m :=
      Nat.dvd_of_mod_eq_zero (by simpa [isFractional] using h)
    have hpow : ((Nat.pow 2 (k + 1) : Nat) : ℚ) ≠ 0 :=
      Nat.cast_ne_zero.2 (Nat.two_pow_pos (k + 1)).ne'
    rw [wholePart, Nat.cast_div hdvd hpow, eq_div_iff hpow, magnitude_negSucc]

/-- A magnitude with a fraction lies between integers. -/
lemma magnitude_ne_intCast (h : (finite negative m e).isFractional = true) (n : Int) :
    magnitude m e ≠ n := by
  match e with
  | .ofNat k => cases h
  | .negSucc k =>
    intro hn
    have hm := magnitude_negSucc m k
    rw [hn] at hm
    have hdvd : ((Nat.pow 2 (k + 1) : Nat) : Int) ∣ m := ⟨n, by rw [mul_comm]; exact_mod_cast hm.symm⟩
    have hmod := Nat.mod_eq_zero_of_dvd (Int.natCast_dvd_natCast.1 hdvd)
    simp only [isFractional, hmod] at h
    cases h

/-! ### Values -/

lemma value_finite (h : (finite negative m e).value = some q) :
    q = magnitude m e ∨ q = -magnitude m e := by
  cases negative with
  | false => exact .inl (Option.some.inj h).symm
  | true => exact .inr (Option.some.inj h).symm

/-- A number has a fraction if its value is no integer. -/
theorem isFractional_iff (h : x.value = some q) : x.isFractional = true ↔ ∀ n : Int, q ≠ n := by
  match x with
  | .finite negative m e =>
    constructor
    · intro hfractional n hn
      obtain rfl | rfl := value_finite h
      · exact magnitude_ne_intCast hfractional n hn
      · exact magnitude_ne_intCast hfractional (-n) (by rw [Int.cast_neg, ← hn, neg_neg])
    · intro hq
      by_contra hwhole
      have hmagnitude := magnitude_eq_wholePart (Bool.eq_false_iff.2 hwhole)
      obtain rfl | rfl := value_finite h
      · exact hq (finite negative m e).wholePart (by rw [hmagnitude, Int.cast_natCast])
      · exact hq (-(finite negative m e).wholePart)
          (by rw [hmagnitude, Int.cast_neg, Int.cast_natCast])

/-- A number is zero or negative if its value is. -/
theorem isNonPositive_iff (h : x.value = some q) : x.isNonPositive = true ↔ q ≤ 0 := by
  match x with
  | .finite true m e =>
    obtain rfl := Option.some.inj h
    exact iff_of_true rfl (neg_nonpos.2 (magnitude_nonneg m e))
  | .finite false m e =>
    obtain rfl := Option.some.inj h
    rw [(magnitude_nonneg m e).ge_iff_eq', magnitude_eq_zero_iff]
    simp [isNonPositive]

/-- The whole part of a positive integer is the integer. -/
theorem wholePart_eq {n : Int} (h : x.value = some n) (hn : 0 < n) : (x.wholePart : Int) = n := by
  have hwhole : x.isFractional = false :=
    Bool.eq_false_iff.2 fun hfractional => (isFractional_iff h).1 hfractional n rfl
  match x with
  | .finite true m e =>
    have hneg : -magnitude m e = n := Option.some.inj h
    have hpos : (0 : ℚ) < n := Int.cast_pos.2 hn
    linarith [magnitude_nonneg m e]
  | .finite false m e =>
    have hmagnitude : magnitude m e = n := Option.some.inj h
    rw [magnitude_eq_wholePart hwhole] at hmagnitude
    exact_mod_cast hmagnitude

end Adventure.Number.Binary64
