import Adventure.Number.Radix
import Adventure.Yaml.Value

/-!
# Plain scalars as values

A scalar without quotes is null, a boolean or a number if it is written like one, and a string
otherwise. Digits with a leading zero are no number.
-/

namespace Adventure.Yaml

open Number

/-- A way to write null. -/
def isNullText (s : String) : Bool :=
  s == "null" || s == "Null" || s == "NULL" || s == "~"

def readBoolean (s : String) : Option Bool :=
  if s == "true" || s == "True" || s == "TRUE" then some true
  else if s == "false" || s == "False" || s == "FALSE" then some false
  else none

def dropSign : List Char → List Char
  | '+' :: cs => cs
  | '-' :: cs => cs
  | cs        => cs

def startsWithSign (cs : List Char) : Bool :=
  cs.head? == some '+' || cs.head? == some '-'

/-- Two or more digits of which the first one is zero, with or without a sign. -/
def hasLeadingZero (cs : List Char) : Bool :=
  let digits := dropSign cs
  digits.head? == some '0' && 1 < digits.length && digits.all Char.isDigit

/-- The number that a zero, a letter for the base and digits in it denote. -/
def readRadix : List Char → Option Nat
  | '0' :: 'x' :: cs => readDigitsIn 16 cs
  | '0' :: 'o' :: cs => readDigitsIn 8 cs
  | '0' :: 'b' :: cs => readDigitsIn 2 cs
  | _                => none

def readNatural (cs : List Char) : Option Nat :=
  (readRadix cs).or (if hasLeadingZero cs then none else readDigitsIn 10 cs)

/-- The integer that a text denotes. -/
def readPlainInteger : List Char → Option Int
  | '+' :: cs => (readNatural cs).map Int.ofNat
  | '-' :: cs => (readNatural cs).map fun n => -(n : Int)
  | cs        => (readNatural cs).map Int.ofNat

/-- What is read as an integer of any size. -/
inductive PlainInteger where
  | fits (n : Int)
  /-- More than 64 bits, but no more than 128. -/
  | tooLarge
  | none

/-- The integer that a text denotes. One that does not even fit into 128 bits counts as none. -/
def classifyInteger (cs : List Char) : PlainInteger :=
  match readPlainInteger cs with
  | .none   => .none
  | .some n =>
    if fitsWord64 n then .fits n
    else if fitsWord128 n then .tooLarge
    else .none

/-- The floating point number that a text denotes. In digits it is finite. -/
def readFloat (s : String) : Option Binary64 :=
  let cs := s.toList
  let unsigned := if cs.head? == some '+' then cs.drop 1 else cs
  let word := String.ofList unsigned
  if cs.head? == some '+' && startsWithSign unsigned then none
  else if word == ".inf" || word == ".Inf" || word == ".INF" then some (.infinite false)
  else if s == "-.inf" || s == "-.Inf" || s == "-.INF" then some (.infinite true)
  else if s == ".nan" || s == ".NaN" || s == ".NAN" then some .nan
  else (Binary64.readDecimal unsigned).filter fun x => !x.isSpecial

/-- The value of a scalar without quotes. Integers of more than 64 bits have none. -/
def plainValue (s : String) : Option Value :=
  if s.isEmpty || isNullText s then some .null
  else match readBoolean s with
    | some b => some (.boolean b)
    | none   =>
      match classifyInteger s.toList with
      | .fits n   => some (.integer n)
      | .tooLarge => none
      | .none     =>
        match if hasLeadingZero s.toList then none else readFloat s with
        | some x => some (.float x)
        | none   => some (.string s)

end Adventure.Yaml
