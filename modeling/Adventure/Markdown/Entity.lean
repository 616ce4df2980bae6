import Adventure.Markdown.EntityTable
import Adventure.Markdown.Source
import Adventure.Number.Integer
import Adventure.Number.Radix

/-!
# Character references

A reference such as `&amp;`, `&#65;` or `&#x1F600;` stands for a character.
-/

namespace Adventure.Markdown

open Number

def words (cs : List Char) : List (List Char) :=
  (cs.splitOn ' ').filter (!·.isEmpty)

/-- The words after the first pair that starts with `name`, with the second word of the pair. -/
def lookupWord (name : List Char) : List (List Char) → Option (List Char)
  | key :: value :: rest => if key = name then some value else lookupWord name rest
  | _ => none

/-- The characters of a name. -/
def entity? (name : List Char) : Option (List Char) :=
  (entityTable.findSome? fun line => lookupWord name (words line.toList)).map fun value =>
    (value.splitOn '+').filterMap fun digits => (readDigitsIn 16 digits).map Char.ofNat

/-- The character of a code point. The replacement character stands for zero and for what is no code
point. -/
def charOfCode (n : Nat) : Char :=
  if n ≠ 0 && n.isValidChar then Char.ofNat n else Char.ofNat 0xFFFD

/-- The digits at the start of a text, no more than `limit` of them, if a semicolon follows. -/
def takeCode (isDigit : Char → Bool) (limit : Nat) (cs : List Char) :
    Option (List Char × List Char) :=
  let digits := cs.takeWhile isDigit
  if digits.isEmpty || limit < digits.length then none
  else match cs.drop digits.length with
    | ';' :: rest => some (digits, rest)
    | _           => none

/-- The reference at the start of a text, after its ampersand: its characters and what follows it. -/
def takeReference : List Char → Option (List Char × List Char)
  | '#' :: 'x' :: cs | '#' :: 'X' :: cs =>
    (takeCode (isDigitIn 16) 6 cs).bind fun (ds, rest) =>
      (readDigitsIn 16 ds).map fun n => ([charOfCode n], rest)
  | '#' :: cs =>
    (takeCode Char.isDigit 7 cs).map fun (ds, rest) => ([charOfCode (digitsValue ds)], rest)
  | cs =>
    let name := cs.takeWhile Char.isAlphanum
    match cs.drop name.length with
    | ';' :: rest => (entity? name).map (·, rest)
    | _           => none

/-- The characters of the reference whose ampersand stands before a place, and where it ends. -/
def reference? (s : Source) (i : Nat) : Option (Nat × List Char) :=
  let cs := s.slice i (s.runEnd (fun c => c.isAlphanum || c == '#') i + 1)
  (takeReference cs).map fun (value, rest) => (i + (cs.length - rest.length), value)

end Adventure.Markdown
