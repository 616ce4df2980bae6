/-!
# Blanks

The white space of Unicode, and the removal of it from the ends of a text.
-/

namespace Adventure.Text

/-- A character with the Unicode property `White_Space`. -/
def isBlankChar (c : Char) : Bool :=
  let n := c.toNat
  (9 ≤ n && n ≤ 13) || n == 0x20 || n == 0x85 || n == 0xA0 || n == 0x1680 ||
    (0x2000 ≤ n && n ≤ 0x200A) || n == 0x2028 || n == 0x2029 || n == 0x202F || n == 0x205F ||
    n == 0x3000

/-- Nothing but white space. -/
def isBlank (cs : List Char) : Bool :=
  cs.all isBlankChar

def trimStart (cs : List Char) : List Char :=
  cs.dropWhile isBlankChar

def trimEnd : List Char → List Char
  | []      => []
  | c :: cs =>
    match trimEnd cs with
    | []   => if isBlankChar c then [] else [c]
    | rest => c :: rest

def trim (cs : List Char) : List Char :=
  trimEnd (trimStart cs)

theorem trimStart_eq_nil_iff (cs : List Char) : trimStart cs = [] ↔ isBlank cs = true := by
  induction cs with
  | nil => simp [trimStart, isBlank]
  | cons c cs ih =>
    by_cases h : isBlankChar c = true
    · have hl : trimStart (c :: cs) = trimStart cs := List.dropWhile_cons_of_pos h
      have hr : isBlank (c :: cs) = isBlank cs := by simp [isBlank, h]
      rw [hl, hr]
      exact ih
    · simp [trimStart, isBlank, h]

end Adventure.Text
