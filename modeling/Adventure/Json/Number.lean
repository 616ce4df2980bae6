import Adventure.Number.Binary64

/-!
# Numbers in JSON

A number without point and exponent is an integer as long as it fits into 64 bits. Every other
number is floating: its leading digits are taken as an integer of 64 bits, and powers of ten are
multiplied in by floating point arithmetic.
-/

namespace Adventure.Json

open Number

/-- The value of a number. -/
inductive Numeral where
  | integer (n : Int)
  | float (x : Binary64)
  /-- Too large for a floating point number. -/
  | tooLarge
  deriving DecidableEq, Repr

namespace Numeral

/-- The parts of a number: the digits before the point, those after it, and the exponent. -/
structure Parts where
  negative : Bool
  whole : List Char
  part : Option (List Char)
  exponent : Option (Bool × List Char)

/-- The digits before the point. Only a single zero starts with zero. -/
def takeWhole (cs : List Char) : Option (List Char × List Char) :=
  let (ds, rest) := cs.span Char.isDigit
  match ds with
  | []            => none
  | '0' :: _ :: _ => none
  | ds            => some (ds, rest)

/-- A point and at least one digit, or nothing. -/
def takePart : List Char → Option (Option (List Char) × List Char)
  | '.' :: cs =>
    let (ds, rest) := cs.span Char.isDigit
    if ds.isEmpty then none else some (some ds, rest)
  | cs => some (none, cs)

/-- The letter `e`, an optional sign and at least one digit, or nothing. -/
def takeExponent : List Char → Option (Option (Bool × List Char) × List Char)
  | c :: cs =>
    if c = 'e' || c = 'E' then
      let (negative, cs) := takeSign cs
      let (ds, rest) := cs.span Char.isDigit
      if ds.isEmpty then none else some (some (negative, ds), rest)
    else some (none, c :: cs)
  | [] => some (none, [])

/-- Takes a number off the front of a text, if there is one. -/
def takeParts (cs : List Char) : Option (Parts × List Char) := do
  let (negative, cs) :=
    match cs with
    | '-' :: cs => (true, cs)
    | cs        => (false, cs)
  let (whole, cs) ← takeWhole cs
  let (part, cs) ← takePart cs
  let (exponent, cs) ← takeExponent cs
  return (⟨negative, whole, part, exponent⟩, cs)

/-- The number of leading digits that can be put after `n` without leaving 64 bits, and the result. -/
def takeFitting (n : Nat) : List Char → Nat × Nat
  | []      => (n, 0)
  | c :: cs =>
    let m := 10 * n + digitValue c
    if m ≤ maxUInt64.toNat then
      let (m, count) := takeFitting m cs
      (m, count + 1)
    else (n, 0)

def powerOfTen (k : Nat) : Binary64 :=
  .ofDecimal false 1 k

/-- The largest exponent of a power of ten among the floating point numbers. -/
def largestPower : Nat := 308

/-- `x / 10 ^ k`. -/
def shrink (x : Binary64) (k : Nat) : Binary64 :=
  if k ≤ largestPower then x.div (powerOfTen k)
  else if x.wholePart = 0 && !x.isFractional then x
  else shrink (x.div (powerOfTen largestPower)) (k - largestPower)
termination_by k
decreasing_by simp [largestPower] at *; omega

/-- `n · 10 ^ k`, computed in floating point arithmetic. -/
def scaled (negative : Bool) (n : Nat) (k : Int) : Numeral :=
  let x := Binary64.ofRatio false n 1
  let signed : Binary64 → Binary64
    | .finite _ m e => .finite negative m e
    | x             => x
  match k with
  | .ofNat k =>
    if k ≤ largestPower then
      let y := x.mul (powerOfTen k)
      if y.isSpecial then .tooLarge else .float (signed y)
    else if n = 0 then .float (signed x)
    else .tooLarge
  | .negSucc k => .float (signed (shrink x (k + 1)))

/-- Exponents beyond 32 bits are not looked at any further. -/
def maxExponent : Nat := 0x7FFFFFFF

/-- The exponent that the digits of a number call for by themselves, and its leading digits. -/
def significand (whole : List Char) (part : List Char) : Nat × Int :=
  let (n, count) := takeFitting 0 whole
  let (n, places) := takeFitting n part
  (n, ((whole.length - count : Nat) : Int) - places)

/-- The value of a number. A minus sign makes zero, and what is below the integers of 64 bits,
floating. -/
def Parts.value (p : Parts) : Numeral :=
  let n := digitsValue p.whole
  match p.part, p.exponent with
  | none, none =>
    if p.negative then
      if 0 < n && -(n : Int) ≥ minInt64 then .integer (-n)
      else
        let (n, k) := significand p.whole []
        scaled true n k
    else if n ≤ maxUInt64.toNat then .integer n
    else
      let (n, k) := significand p.whole []
      scaled false n k
  | part, exponent =>
    let (n, k) := significand p.whole (part.getD [])
    match exponent with
    | none => scaled p.negative n k
    | some (negative, ds) =>
      let e := digitsValue ds
      if e ≤ maxExponent then scaled p.negative n (if negative then k - e else k + e)
      else if n ≠ 0 && !negative then .tooLarge
      else .float (.zero p.negative)

/-- Takes a number off the front of a text and computes its value. -/
def take (cs : List Char) : Option (Numeral × List Char) :=
  (takeParts cs).map fun (p, rest) => (p.value, rest)

end Numeral

end Adventure.Json
