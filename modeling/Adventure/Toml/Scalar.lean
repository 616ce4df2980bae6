import Adventure.Number.Integer
import Adventure.Number.Radix
import Adventure.Toml.Value

/-!
# TOML scalars

Numbers, dates and strings. Numbers may have underscores between their digits.
-/

namespace Adventure.Toml

open Number

/-! ### Numbers -/

/-- Digits without the underscores between them. An underscore stands between two digits. -/
def digits? (isDigit : Char → Bool) : List Char → Option (List Char)
  | []      => none
  | [c]     => if isDigit c then some [c] else none
  | c :: '_' :: cs => if isDigit c then (digits? isDigit cs).map (c :: ·) else none
  | c :: cs => if isDigit c then (digits? isDigit cs).map (c :: ·) else none

/-- Digits without a needless zero at the start. -/
def decimalDigits? (cs : List Char) : Option (List Char) :=
  (digits? Char.isDigit cs).filter fun ds => ds.head? ≠ some '0' || ds.length = 1

/-- An integer. It fits into 64 bits with a sign. -/
def readInteger (cs : List Char) : Option Int :=
  let inBase (base : Nat) (cs : List Char) : Option Int :=
    ((digits? (isDigitIn base) cs).bind (readDigitsIn base)).map Int.ofNat
  let n :=
    match cs with
    | '0' :: 'x' :: cs => inBase 16 cs
    | '0' :: 'o' :: cs => inBase 8 cs
    | '0' :: 'b' :: cs => inBase 2 cs
    | cs =>
      let (negative, cs) := takeSign cs
      (decimalDigits? cs).map fun ds =>
        if negative then -(digitsValue ds : Int) else digitsValue ds
  n.filter fitsInt64

def readExponent (cs : List Char) : Option Int :=
  let (negative, cs) := takeSign cs
  (digits? Char.isDigit cs).map fun ds =>
    if negative then -(digitsValue ds : Int) else digitsValue ds

/-- A floating point number with a fraction, an exponent or both, without its sign. -/
def readMagnitude (negative : Bool) (cs : List Char) : Option Binary64 := do
  let isExponentMark (c : Char) : Bool := c == 'e' || c == 'E'
  let (mantissa, exponent) := cs.span fun c => !isExponentMark c
  let (whole, fraction) := mantissa.span (· ≠ '.')
  if exponent.isEmpty && fraction.isEmpty then none
  let whole ← decimalDigits? whole
  let part ← if fraction.isEmpty then some [] else digits? Char.isDigit (fraction.drop 1)
  let e ← if exponent.isEmpty then some 0 else readExponent (exponent.drop 1)
  let x := Binary64.ofDecimal negative (digitsValue (whole ++ part)) (e - part.length)
  if x = .infinite false then none else return x

/-- A floating point number. Only a word stands for infinity. -/
def readFloat (cs : List Char) : Option Binary64 :=
  let (negative, cs) := takeSign cs
  if cs = "inf".toList then some (.infinite negative)
  else if cs = "nan".toList then some .nan
  else readMagnitude negative cs

/-! ### Dates and times -/

/-- The first two digits as a number, and what follows. -/
def takeTwo : List Char → Option (Nat × List Char)
  | a :: b :: cs =>
    if a.isDigit && b.isDigit then some (digitsValue [a, b], cs) else none
  | _ => none

def takeChar (c : Char) : List Char → Option (List Char)
  | d :: cs => if c = d then some cs else none
  | []      => none

def daysIn (year month : Nat) : Nat :=
  if month = 2 then
    (if year % 4 = 0 && (year % 100 ≠ 0 || year % 400 = 0) then 29 else 28)
  else if month = 4 || month = 6 || month = 9 || month = 11 then 30
  else 31

def takeDate (cs : List Char) : Option (List Char) := do
  let (century, cs) ← takeTwo cs
  let (year, cs) ← takeTwo cs
  let (month, cs) ← takeTwo (← takeChar '-' cs)
  let (day, cs) ← takeTwo (← takeChar '-' cs)
  if month < 1 || 12 < month || day < 1 || daysIn (100 * century + year) month < day then none
  return cs

def takeTime (cs : List Char) : Option (List Char) := do
  let (hour, cs) ← takeTwo cs
  let (minute, cs) ← takeTwo (← takeChar ':' cs)
  let (second, cs) ← takeTwo (← takeChar ':' cs)
  if 23 < hour || 59 < minute || 60 < second then none
  match cs with
  | '.' :: fraction =>
    let rest := fraction.dropWhile Char.isDigit
    if rest.length = fraction.length then none else return rest
  | cs => return cs

/-- What follows the offset of a time zone, if there is one. -/
def takeOffset (cs : List Char) : Option (List Char) :=
  match cs with
  | [] => some []
  | c :: rest =>
    if c = 'Z' || c = 'z' then some rest
    else if c = '+' || c = '-' then do
      let (hour, cs) ← takeTwo rest
      let (minute, cs) ← takeTwo (← takeChar ':' cs)
      if 23 < hour || 59 < minute then none else return cs
    else some cs

/-- A date, a time, or a date and a time with or without an offset. -/
def isDatetime (cs : List Char) : Bool :=
  match takeDate cs with
  | none => takeTime cs == some []
  | some [] => true
  | some (c :: rest) =>
    (c == 'T' || c == 't' || c == ' ') && (takeTime rest).bind takeOffset == some []

/-- A scalar without quotes. -/
def readWord (cs : List Char) : Option Value :=
  if cs = "true".toList then some (.boolean true)
  else if cs = "false".toList then some (.boolean false)
  else if isDatetime cs then some .datetime
  else match readInteger cs with
    | some n => some (.integer n)
    | none   => (readFloat cs).map .float

/-- A character of a scalar without quotes. -/
def isWordChar (c : Char) : Bool :=
  c.isAlphanum || c == '+' || c == '-' || c == '_' || c == '.' || c == ':'

/-- Takes a scalar without quotes. A blank may stand between a date and a time. -/
def takeWord (cs : List Char) : Option (Value × List Char) :=
  let word := cs.takeWhile isWordChar
  let rest := cs.drop word.length
  let (word, rest) :=
    match takeDate word, rest with
    | some [], ' ' :: c :: more =>
      if c.isDigit then
        let time := (c :: more).takeWhile isWordChar
        (word ++ ' ' :: time, (c :: more).drop time.length)
      else (word, rest)
    | _, _ => (word, rest)
  (readWord word).map (·, rest)

/-! ### Strings -/

/-- A character that may stand in a string or a comment. -/
def isTextChar (c : Char) : Bool :=
  c == '\t' || (0x20 ≤ c.toNat && c.toNat ≠ 0x7F)

/-- The character of an escape with a single letter. -/
def escape? : Char → Option Char
  | 'b'  => some '\x08'
  | 't'  => some '\t'
  | 'n'  => some '\n'
  | 'f'  => some '\x0c'
  | 'r'  => some '\r'
  | '"'  => some '"'
  | '\\' => some '\\'
  | _    => none

/-- The character that a number of hexadecimal digits denotes, and what follows them. -/
def takeCode (count : Nat) (cs : List Char) : Option (Char × List Char) :=
  if cs.length < count then none
  else (readDigitsIn 16 (cs.take count)).bind fun n =>
    if n.isValidChar then some (Char.ofNat n, cs.drop count) else none

/-- The character of an escape sequence, after its backslash, and what follows. -/
def takeEscape : List Char → Option (Char × List Char)
  | 'u' :: cs => takeCode 4 cs
  | 'U' :: cs => takeCode 8 cs
  | c :: cs   => (escape? c).map (·, cs)
  | []        => none

/-- Without a line feed at the start, with or without a carriage return. -/
def dropLineFeed : List Char → List Char
  | '\n' :: cs         => cs
  | '\r' :: '\n' :: cs => cs
  | cs                 => cs

/-- What follows a backslash at the end of a line, and all blank lines and blanks after it. -/
def takeLineEscape (cs : List Char) : Option (List Char) :=
  let isBlank (c : Char) : Bool := c == ' ' || c == '\t'
  let blankRun (cs : List Char) : List Char :=
    cs.dropWhile fun c => isBlank c || c == '\n' || c == '\r'
  match cs.dropWhile isBlank with
  | '\n' :: rest         => some (blankRun rest)
  | '\r' :: '\n' :: rest => some (blankRun rest)
  | _                    => none

/-- Takes a string on one line, after its opening quote. Only between double quotes a backslash
escapes. -/
def takeString (quote : Char) : Nat → List Char → Option (List Char × List Char)
  | 0, _ => none
  | fuel + 1, cs =>
    match cs with
    | [] => none
    | c :: cs =>
      if c = quote then some ([], cs)
      else if c = '\\' && quote = '"' then do
        let (c, cs) ← takeEscape cs
        let (text, rest) ← takeString quote fuel cs
        return (c :: text, rest)
      else if isTextChar c then (takeString quote fuel cs).map fun (text, rest) => (c :: text, rest)
      else none

/-- Takes a string over several lines, after its opening quotes. Up to two quotes may stand before
the closing three. -/
def takeLongString (quote : Char) : Nat → List Char → Option (List Char × List Char)
  | 0, _ => none
  | fuel + 1, cs =>
    let quotes := (cs.takeWhile (· = quote)).length
    if 3 ≤ quotes then
      let extra := min (quotes - 3) 2
      some (List.replicate extra quote, cs.drop (extra + 3))
    else match cs with
      | [] => none
      | '\r' :: '\n' :: cs => (takeLongString quote fuel cs).map fun (text, rest) => ('\n' :: text, rest)
      | c :: cs =>
        if c = '\\' && quote = '"' then
          match takeLineEscape cs with
          | some cs => takeLongString quote fuel cs
          | none    => do
            let (c, cs) ← takeEscape cs
            let (text, rest) ← takeLongString quote fuel cs
            return (c :: text, rest)
        else if c = '\n' || isTextChar c then
          (takeLongString quote fuel cs).map fun (text, rest) => (c :: text, rest)
        else none

/-- Takes a string on one line, at its opening quote. -/
def takeQuoted : List Char → Option (List Char × List Char)
  | '"' :: cs  => takeString '"' (cs.length + 1) cs
  | '\'' :: cs => takeString '\'' (cs.length + 1) cs
  | _          => none

/-- Takes a string of either kind, at its opening quote. A line break right after three quotes does
not count. -/
def takeAnyString : List Char → Option (List Char × List Char)
  | '"' :: '"' :: '"' :: cs    => takeLongString '"' (cs.length + 1) (dropLineFeed cs)
  | '\'' :: '\'' :: '\'' :: cs => takeLongString '\'' (cs.length + 1) (dropLineFeed cs)
  | cs                         => takeQuoted cs

end Adventure.Toml
