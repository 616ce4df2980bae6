/-!
# Lines

A line of a text is everything up to and including a line feed. The last line may lack it.
-/

namespace Adventure.Text

/-- Cuts the first line off: everything up to and including the first line feed. -/
def takeLine : List Char → List Char × List Char
  | []      => ([], [])
  | c :: cs =>
    if c = '\n' then ([c], cs)
    else
      let (line, rest) := takeLine cs
      (c :: line, rest)

theorem takeLine_append (cs : List Char) : (takeLine cs).1 ++ (takeLine cs).2 = cs := by
  induction cs with
  | nil => rfl
  | cons c cs ih => by_cases h : c = '\n' <;> simp [takeLine, h, ih]

theorem takeLine_length (cs : List Char) : (takeLine cs).2.length ≤ cs.length := by
  have h := congrArg List.length (takeLine_append cs)
  simp only [List.length_append] at h
  omega

/-- What follows the first line is shorter than the text. -/
theorem takeLine_length_lt (c : Char) (cs : List Char) :
    (takeLine (c :: cs)).2.length < (c :: cs).length := by
  have h := takeLine_length cs
  by_cases hc : c = '\n'
  · simp [takeLine, hc]
  · simp only [takeLine, hc, if_false, List.length_cons]
    omega

/-- The lines of a text, each with its line feed. -/
def lines : List Char → List (List Char)
  | []      => []
  | c :: cs => (takeLine (c :: cs)).1 :: lines (takeLine (c :: cs)).2
termination_by cs => cs.length
decreasing_by exact takeLine_length_lt c cs

end Adventure.Text
