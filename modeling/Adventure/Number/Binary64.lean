import Adventure.Number.Integer

/-!
# Floating point numbers of 64 bits

A finite number is kept exactly, as a sign, a mantissa and a power of two. A rational number is
rounded to the nearest one, and of two equally near ones to the one with the even mantissa.
-/

namespace Adventure.Number

/-- A floating point number of 64 bits. `finite s m e` is `± m · 2 ^ e`. -/
inductive Binary64 where
  | nan
  | infinite (negative : Bool)
  | finite (negative : Bool) (mantissa : Nat) (exponent : Int)
  deriving DecidableEq, Repr, Inhabited

namespace Binary64

def minExponent : Int := -1074

def maxExponent : Int := 971

def zero (negative : Bool) : Binary64 :=
  .finite negative 0 minExponent

/-- `num / den` as a fraction of naturals after a division by `2 ^ e`. -/
def scale (num den : Nat) (e : Int) : Nat × Nat :=
  match e with
  | .ofNat k   => (num, den * Nat.pow 2 k)
  | .negSucc k => (num * Nat.pow 2 (k + 1), den)

/-- The quotient, rounded to the nearest integer, a half to the even one. -/
def roundDiv (num den : Nat) : Nat :=
  let q := num / den
  let twice := 2 * (num % den)
  if twice < den then q
  else if den < twice then q + 1
  else q + q % 2

/-- The greatest `k` with `2 ^ k ≤ num / den`. -/
def floorLog2 (num den : Nat) : Int :=
  let k : Int := (Nat.log2 num : Int) - Nat.log2 den
  let (n, d) := scale num den k
  if d ≤ n then k else k - 1

/-- The number nearest to `num / den`. -/
def ofRatio (negative : Bool) (num den : Nat) : Binary64 :=
  if num = 0 || den = 0 then zero negative
  else
    let e := max (floorLog2 num den - 52) minExponent
    let (n, d) := scale num den e
    let m := roundDiv n d
    let (m, e) := if m = Nat.pow 2 53 then (Nat.pow 2 52, e + 1) else (m, e)
    if maxExponent < e then .infinite negative else .finite negative m e

/-- The number nearest to an integer. -/
def ofInt (n : Int) : Binary64 :=
  ofRatio (n < 0) n.natAbs 1

/-- The number nearest to `digits · 10 ^ exponent`. Magnitudes far outside the range are decided
without the power. -/
def ofDecimal (negative : Bool) (digits : Nat) (exponent : Int) : Binary64 :=
  if digits = 0 then zero negative
  else
    let magnitude := ((toString digits).length : Int) + exponent
    if magnitude > 400 then .infinite negative
    else if magnitude < -400 then zero negative
    else match exponent with
      | .ofNat k   => ofRatio negative (digits * Nat.pow 10 k) 1
      | .negSucc k => ofRatio negative digits (Nat.pow 10 (k + 1))

/-- The exponent part of a decimal: nothing, or `e` with an integer. -/
def readExponent : List Char → Option Int
  | []      => some 0
  | c :: cs => if c = 'e' || c = 'E' then readInteger cs else none

/-- The number in decimal notation: digits with or without a point, at least one of them, and an
optional exponent. -/
def readDecimal (cs : List Char) : Option Binary64 :=
  let (negative, cs) := takeSign cs
  let (whole, cs) := cs.span Char.isDigit
  let (part, cs) :=
    match cs with
    | '.' :: cs => cs.span Char.isDigit
    | cs        => ([], cs)
  if whole.isEmpty && part.isEmpty then none
  else (readExponent cs).map fun e =>
    ofDecimal negative (digitsValue (whole ++ part)) (e - part.length)

/-- The number is infinite or not a number. -/
def isSpecial : Binary64 → Bool
  | .finite .. => false
  | _          => true

def isFractional : Binary64 → Bool
  | .finite _ m (.negSucc k) => m % Nat.pow 2 (k + 1) != 0
  | _                        => false

/-- The whole part of the magnitude of a finite number. -/
def wholePart : Binary64 → Nat
  | .finite _ m (.ofNat k)   => m * Nat.pow 2 k
  | .finite _ m (.negSucc k) => m / Nat.pow 2 (k + 1)
  | _                        => 0

def isNonPositive : Binary64 → Bool
  | .finite negative m _ => negative || m == 0
  | _                    => false

def mul : Binary64 → Binary64 → Binary64
  | .finite s m e, .finite s' m' e' =>
    let negative := s != s'
    match e + e' with
    | .ofNat k   => ofRatio negative (m * m' * Nat.pow 2 k) 1
    | .negSucc k => ofRatio negative (m * m') (Nat.pow 2 (k + 1))
  | _, _ => .nan

def div : Binary64 → Binary64 → Binary64
  | .finite s m e, .finite s' m' e' =>
    let negative := s != s'
    match e - e' with
    | .ofNat k   => ofRatio negative (m * Nat.pow 2 k) m'
    | .negSucc k => ofRatio negative m (m' * Nat.pow 2 (k + 1))
  | _, _ => .nan

end Binary64

end Adventure.Number
