import Adventure.Number.Shortest
import Adventure.Text.Printable

/-!
# Mismatches

Data that is well formed may still have the wrong shape. A mismatch says what was found and what was
expected instead.
-/

namespace Adventure

open Number

/-- What was found in the data. -/
inductive Found where
  | null
  /-- Null, where a format has no name for it. -/
  | unit
  | boolean (b : Bool)
  | integer (n : Int)
  | float (x : Binary64)
  | string (s : String)
  | sequence
  | map
  deriving DecidableEq, Repr

/-- How data differs from the expected shape. -/
inductive Mismatch where
  | wrongType (found : Found) (expected : String)
  | wrongValue (found : Found) (expected : String)
  | wrongLength (length : Nat) (expected : String)
  | missingField (name : String)
  | duplicateField (name : String)
  /-- A name outside the known ones. -/
  | unknownField (name : String) (known : List String)
  /-- None of the alternative shapes of the named kind fits. -/
  | noAlternative (kind : String)
  /-- A tagged value where one of several plain shapes belongs. -/
  | taggedAlternative
  | other (message : String)
  deriving DecidableEq, Repr

/-- Quotes, backslashes and characters that do not show on their own are escaped in a quoted string. -/
def escapeDebug (c : Char) : String :=
  if c = '"' then "\\\""
  else if c = '\\' then "\\\\"
  else if c = '\n' then "\\n"
  else if c = '\r' then "\\r"
  else if c = '\t' then "\\t"
  else if c = '\x00' then "\\0"
  else if Text.isPrintable c then String.singleton c
  else "\\u\x7b" ++ String.ofList (Nat.toDigits 16 c.toNat) ++ "\x7d"

def quoteDebug (s : String) : String :=
  "\"" ++ String.join (s.toList.map escapeDebug) ++ "\""

/-- What was found, in the words of an error message. -/
def Found.describe : Found → String
  | .null      => "null"
  | .unit      => "unit value"
  | .boolean b => "boolean `" ++ toString b ++ "`"
  | .integer n => "integer `" ++ toString n ++ "`"
  | .float x   =>
    let text := x.toPositional
    "floating point `" ++ (if x.isSpecial then text else Binary64.withPoint text) ++ "`"
  | .string s  => "string " ++ quoteDebug s
  | .sequence  => "sequence"
  | .map       => "map"

def describeKnown (names : List String) : String :=
  let quoted := names.map fun n => "`" ++ n ++ "`"
  match quoted with
  | [n] => n
  | ns  => "one of " ++ ", ".intercalate ns

def Mismatch.message : Mismatch → String
  | .wrongType found expected   => "invalid type: " ++ found.describe ++ ", expected " ++ expected
  | .wrongValue found expected  => "invalid value: " ++ found.describe ++ ", expected " ++ expected
  | .wrongLength n expected     => "invalid length " ++ toString n ++ ", expected " ++ expected
  | .missingField name          => "missing field `" ++ name ++ "`"
  | .duplicateField name        => "duplicate field `" ++ name ++ "`"
  | .unknownField name known    =>
    "unknown field `" ++ name ++ "`, expected " ++ describeKnown known
  | .noAlternative kind         => "data did not match any variant of untagged enum " ++ kind
  | .taggedAlternative          =>
    "untagged and internally tagged enums do not support enum input"
  | .other message              => message

end Adventure
