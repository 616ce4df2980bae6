import Adventure.Number.Binary64

/-!
# The shortest decimal of a floating point number

Of the decimals that read back as the same number, the shortest are those with the fewest digits,
and of these the nearest is taken. It is written in positional notation or, for large and small
magnitudes, with an exponent.
-/

namespace Adventure.Number

/-- `digits · 10 ^ exponent`. -/
structure Decimal where
  digits : Nat
  exponent : Int
  deriving DecidableEq, Repr

namespace Decimal

/-- `n · 10 ^ k` compared with the fraction `num / den`: the two sides over a common denominator. -/
def crossed (n : Nat) (k : Int) (num den : Nat) : Nat × Nat :=
  match k with
  | .ofNat k   => (n * Nat.pow 10 k * den, num)
  | .negSucc k => (n * den, num * Nat.pow 10 (k + 1))

/-- `num / den` divided by `10 ^ k`, rounded down. -/
def floorAt (num den : Nat) (k : Int) : Nat :=
  match k with
  | .ofNat k   => num / (den * Nat.pow 10 k)
  | .negSucc k => num * Nat.pow 10 (k + 1) / den

/-- The least `p` from `p₀` on with `num / den < 10 ^ p`, looking at no more than `fuel` of them. -/
def digitCountFrom (num den : Nat) : Nat → Int → Int
  | 0,        p => p
  | fuel + 1, p => if floorAt num den p = 0 then p else digitCountFrom num den fuel (p + 1)

/-- The least `p` with `num / den < 10 ^ p`. The logarithm to base two bounds the search. -/
def digitCount (num den : Nat) : Int :=
  digitCountFrom num den 8 (Binary64.floorLog2 num den * 30103 / 100000 - 2)

/-- The interval of fractions that round to `m · 2 ^ e`: its ends as numerators over one
denominator, and whether the ends belong to it. -/
structure Interval where
  low : Nat
  mid : Nat
  high : Nat
  den : Nat
  closed : Bool

/-- The interval of fractions that round to `m · 2 ^ e`. Below a power of two it is half as wide. -/
def Interval.around (m : Nat) (e : Int) : Interval :=
  let below := if m = Nat.pow 2 52 && Binary64.minExponent < e then 1 else 2
  let (unit, den) : Nat × Nat :=
    match e - 2 with
    | .ofNat k   => (Nat.pow 2 k, 1)
    | .negSucc k => (1, Nat.pow 2 (k + 1))
  ⟨(4 * m - below) * unit, 4 * m * unit, (4 * m + 2) * unit, den, m % 2 == 0⟩

/-- `n · 10 ^ k` lies in the interval. -/
def Interval.contains (i : Interval) (n : Nat) (k : Int) : Bool :=
  let (a, low) := crossed n k i.low i.den
  let (b, high) := crossed n k i.high i.den
  if i.closed then low ≤ a && b ≤ high else low < a && b < high

/-- The decimal on the grid of multiples of `10 ^ k` that lies in the interval, the nearer of two. -/
def Interval.onGrid (i : Interval) (k : Int) : Option Nat :=
  let n := floorAt i.mid i.den k
  match i.contains n k, i.contains (n + 1) k with
  | true,  false => some n
  | false, true  => some (n + 1)
  | false, false => none
  | true,  true  =>
    let (a, mid) := crossed n k i.mid i.den
    let (b, _) := crossed (n + 1) k i.mid i.den
    some (if mid - a ≤ b - mid then n else n + 1)

/-- The first grid with a point in the interval, from the coarsest on. -/
def Interval.shortestFrom (i : Interval) : Nat → Int → Decimal
  | 0,        k => ⟨floorAt i.mid i.den k, k⟩
  | fuel + 1, k =>
    match i.onGrid k with
    | some n => ⟨n, k⟩
    | none   => i.shortestFrom fuel (k - 1)

/-- Without trailing zeros in the digits. -/
def normalizeFrom : Nat → Decimal → Decimal
  | 0,        d => d
  | fuel + 1, d =>
    if d.digits ≠ 0 && d.digits % 10 = 0 then normalizeFrom fuel ⟨d.digits / 10, d.exponent + 1⟩
    else d

/-- The shortest decimal that reads back as `m · 2 ^ e`. -/
def shortest (m : Nat) (e : Int) : Decimal :=
  if m = 0 then ⟨0, 0⟩
  else
    let i := Interval.around m e
    normalizeFrom 20 (i.shortestFrom 17 (digitCount i.mid i.den - 1))

/-- Positional notation: `12300`, `12.3` or `0.0123`, without an exponent. -/
def positional (d : Decimal) : String :=
  let ds := (toString d.digits).toList
  match d.exponent with
  | .ofNat k   => String.ofList (ds ++ List.replicate (if d.digits = 0 then 0 else k) '0')
  | .negSucc k =>
    let places := k + 1
    if places < ds.length then
      String.ofList (ds.take (ds.length - places) ++ '.' :: ds.drop (ds.length - places))
    else String.ofList ("0.".toList ++ List.replicate (places - ds.length) '0' ++ ds)

/-- Scientific notation: one digit before the point, and no point after a single digit. -/
def scientific (d : Decimal) : String :=
  let ds := (toString d.digits).toList
  let exponent := d.exponent + ds.length - 1
  let point := if ds.length = 1 then [] else ['.']
  String.ofList (ds.take 1 ++ point ++ ds.drop 1) ++ "e" ++ toString exponent

/-- Where the decimal point stands, counted from before the first digit. -/
def pointPosition (d : Decimal) : Int :=
  d.exponent + (toString d.digits).length

end Decimal

namespace Binary64

/-- The sign of a number that is not a number is not shown. -/
def signText (negative : Bool) : String :=
  if negative then "-" else ""

/-- Positional notation of the shortest decimal; a whole number has no point. -/
def toPositional : Binary64 → String
  | .nan               => "NaN"
  | .infinite negative => signText negative ++ "inf"
  | .finite negative m e => signText negative ++ (Decimal.shortest m e).positional

/-- With `.0` after a whole number. -/
def withPoint (text : String) : String :=
  if text.toList.contains '.' then text else text ++ ".0"

/-- Notation that always shows the number to be no integer: with a point while the point stands
within 16 digits or follows at most four zeros, with an exponent otherwise. -/
def toMarked : Binary64 → String
  | .nan               => ".nan"
  | .infinite negative => signText negative ++ ".inf"
  | .finite negative m e =>
    let d := Decimal.shortest m e
    let point := d.pointPosition
    signText negative ++
      if m = 0 then "0.0"
      else if -5 < point && point ≤ 16 then withPoint d.positional
      else d.scientific

end Binary64

end Adventure.Number
