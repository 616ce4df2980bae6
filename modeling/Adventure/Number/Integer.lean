/-!
# Decimal integers

The value of a run of decimal digits, and the integers of 64 bits in decimal notation.
-/

namespace Adventure.Number

def digitValue (c : Char) : Nat :=
  c.toNat - '0'.toNat

/-- The number that a run of decimal digits denotes, continuing from `acc`. -/
def digitsValueFrom (acc : Nat) : List Char → Nat
  | []      => acc
  | c :: cs => digitsValueFrom (10 * acc + digitValue c) cs

def digitsValue (cs : List Char) : Nat :=
  digitsValueFrom 0 cs

/-- A non-empty run of decimal digits. -/
def isDigits (cs : List Char) : Bool :=
  !cs.isEmpty && cs.all Char.isDigit

/-- Takes an optional sign off; `true` stands for a minus sign. -/
def takeSign : List Char → Bool × List Char
  | '+' :: cs => (false, cs)
  | '-' :: cs => (true, cs)
  | cs        => (false, cs)

/-- The integer written as an optional sign and one or more digits. -/
def readInteger (cs : List Char) : Option Int :=
  let (negative, digits) := takeSign cs
  if isDigits digits then
    let n : Int := digitsValue digits
    some (if negative then -n else n)
  else none

def minInt64 : Int := -0x8000000000000000

def maxInt64 : Int := 0x7FFFFFFFFFFFFFFF

def maxUInt64 : Int := 0xFFFFFFFFFFFFFFFF

def minInt128 : Int := -0x80000000000000000000000000000000

def maxUInt128 : Int := 0xFFFFFFFFFFFFFFFFFFFFFFFFFFFFFFFF

def fitsInt64 (n : Int) : Bool :=
  minInt64 ≤ n && n ≤ maxInt64

/-- The integer fits into 64 bits with or without a sign. -/
def fitsWord64 (n : Int) : Bool :=
  minInt64 ≤ n && n ≤ maxUInt64

/-- The integer fits into 128 bits with or without a sign. -/
def fitsWord128 (n : Int) : Bool :=
  minInt128 ≤ n && n ≤ maxUInt128

def readInt64 (cs : List Char) : Option Int :=
  (readInteger cs).filter fitsInt64

end Adventure.Number
