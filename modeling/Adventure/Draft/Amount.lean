import Adventure.Game.Record
import Adventure.Number.Shortest
import Adventure.Text.Blank

/-!
# Amounts as written

An author writes an amount as an integer, as a floating point number without fraction, or as a text.
Infinity and the word `inf` stand for an unlimited amount.
-/

namespace Adventure.Draft

open Number

/-- An amount as it was written. -/
inductive Amount where
  | integer (n : Int)
  | float (x : Binary64)
  | text (s : String)
  deriving DecidableEq, Repr

/-- Why something is no amount. -/
inductive AmountDefect where
  | nonPositive
  | fractional (written : String)
  | invalid (written : String)
  deriving DecidableEq, Repr

namespace Amount

/-- An integer is an amount if it is positive. -/
def ofInt (n : Int) : Except AmountDefect Game.Amount :=
  if 0 < n then .ok (.count n.toNat) else .error .nonPositive

/-- Whole floating point numbers from here on are no amounts. -/
def floatLimit : Nat := 9_000_000_000_000_000_000

/-- A finite floating point number is an amount if it is whole, positive and not too large. -/
def ofFloat (x : Binary64) : Except AmountDefect Game.Amount :=
  if x = .infinite false then .ok .unlimited
  else if x.isSpecial then .error (.invalid x.toPositional)
  else if x.isFractional then .error (.fractional x.toPositional)
  else if x.isNonPositive then .error .nonPositive
  else if x.wholePart < floatLimit then .ok (.count x.wholePart)
  else .error (.invalid x.toPositional)

/-- A text is an amount if it holds an integer or the word for an unlimited amount; white space
around it does not matter. -/
def ofText (s : String) : Except AmountDefect Game.Amount :=
  let trimmed := Text.trim s.toList
  if trimmed = Game.Amount.unlimitedText.toList then .ok .unlimited
  else match readInt64 trimmed with
    | some n => ofInt n
    | none   => .error (.invalid s)

/-- The amount that was meant. -/
def resolve : Amount → Except AmountDefect Game.Amount
  | .integer n => ofInt n
  | .float x   => ofFloat x
  | .text s    => ofText s

end Amount

/-- The message about the amount of the item `name`. -/
def AmountDefect.message (name : String) : AmountDefect → String
  | .nonPositive        => "Negative or zero amount for item `" ++ name ++ "`"
  | .fractional written => "Fractional amount `" ++ written ++ "` for item `" ++ name ++ "`"
  | .invalid written    => "Invalid amount `" ++ written ++ "` for item `" ++ name ++ "`"

end Adventure.Draft
