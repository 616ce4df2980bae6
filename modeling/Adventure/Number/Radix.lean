/-!
# Digits in other bases

Naturals in hexadecimal, octal or binary notation, without a prefix.
-/

namespace Adventure.Number

/-- The value of a digit up to `f`, in either case. -/
def hexDigitValue (c : Char) : Option Nat :=
  if c.isDigit then some (c.toNat - '0'.toNat)
  else if 'a' ≤ c && c ≤ 'f' then some (c.toNat - 'a'.toNat + 10)
  else if 'A' ≤ c && c ≤ 'F' then some (c.toNat - 'A'.toNat + 10)
  else none

def digitIn (base : Nat) (c : Char) : Option Nat :=
  (hexDigitValue c).filter (· < base)

def isDigitIn (base : Nat) (c : Char) : Bool :=
  (digitIn base c).isSome

/-- The number that digits denote, continuing from `acc`. -/
def digitsFrom (base acc : Nat) : List Char → Option Nat
  | []      => some acc
  | c :: cs => (digitIn base c).bind fun d => digitsFrom base (base * acc + d) cs

def readDigitsIn (base : Nat) (cs : List Char) : Option Nat :=
  if cs.isEmpty then none else digitsFrom base 0 cs

end Adventure.Number
