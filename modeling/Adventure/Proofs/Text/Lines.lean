import Adventure.Text.Blank
import Adventure.Text.Lines
import Mathlib.Data.List.Basic

/-!
# Lines and blanks

The lines of a text, stated without the function that cuts them, and the white space at the ends of
a text.

* `lines_eq_iff` : a text is cut into its lines.
* `exists_eq_trimEnd_append`, `trimEnd_append` : only white space is taken off the end of a text, and
  all of it.
* `trim_eq_iff` : what is left of a text without white space at its ends.
-/

namespace Adventure.Text

variable {cs l r text : List Char} {ls : List (List Char)}

/-! ### Lines -/

/-- A line with its line feed. -/
def IsLine (l : List Char) : Prop :=
  ∃ cs, '\n' ∉ cs ∧ l = cs ++ ['\n']

/-- The lines of a text. The last one may lack its line feed, and then it is not empty. -/
inductive IsLines : List Char → List (List Char) → Prop
  | nil : IsLines [] []
  | last {cs : List Char} (hne : cs ≠ []) (h : '\n' ∉ cs) : IsLines cs [cs]
  | line {l text : List Char} {ls : List (List Char)} (hl : IsLine l) (h : IsLines text ls) :
      IsLines (l ++ text) (l :: ls)

lemma IsLine.ne_nil (h : IsLine l) : l ≠ [] := by
  obtain ⟨cs, -, rfl⟩ := h
  simp

lemma IsLines.flatten_eq (h : IsLines text ls) : ls.flatten = text := by
  induction h with
  | nil => rfl
  | last _ _ => simp
  | line _ _ ih => rw [List.flatten_cons, ih]

lemma takeLine_of_notMem (h : '\n' ∉ cs) : takeLine cs = (cs, []) := by
  induction cs with
  | nil => rfl
  | cons c cs ih =>
    simp only [List.mem_cons, not_or] at h
    rw [takeLine, if_neg (Ne.symm h.1), ih h.2]

/-- A line is cut off together with its line feed. -/
lemma takeLine_line (h : '\n' ∉ cs) (r : List Char) :
    takeLine (cs ++ '\n' :: r) = (cs ++ ['\n'], r) := by
  induction cs with
  | nil => simp [takeLine]
  | cons c cs ih =>
    simp only [List.mem_cons, not_or] at h
    rw [List.cons_append, takeLine, if_neg (Ne.symm h.1), ih h.2]
    rfl

lemma lines_of_ne_nil (h : cs ≠ []) : lines cs = (takeLine cs).1 :: lines (takeLine cs).2 := by
  obtain ⟨c, cs, rfl⟩ := List.exists_cons_of_ne_nil h
  rw [lines]

lemma lines_append (hl : IsLine l) (r : List Char) : lines (l ++ r) = l :: lines r := by
  obtain ⟨cs, hcs, rfl⟩ := hl
  rw [List.append_assoc, List.singleton_append, lines_of_ne_nil (by simp), takeLine_line hcs]

lemma IsLines.lines_eq (h : IsLines text ls) : lines text = ls := by
  induction h with
  | nil => rw [lines]
  | last hne h => rw [lines_of_ne_nil hne, takeLine_of_notMem h, lines]
  | line hl _ ih => rw [lines_append hl, ih]

/-- A text has no line feed, or it starts with a line. -/
lemma eq_line_append (cs : List Char) :
    '\n' ∉ cs ∨ ∃ l r, IsLine l ∧ cs = l ++ r := by
  by_cases h : '\n' ∈ cs
  · obtain ⟨pre, post, rfl, hpre⟩ := List.eq_append_cons_of_mem h
    exact .inr ⟨pre ++ ['\n'], post, ⟨pre, hpre, rfl⟩, by simp⟩
  · exact .inl h

/-- A text is cut into its lines. -/
lemma isLines_lines (text : List Char) : IsLines text (lines text) := by
  rcases eq_line_append text with h | ⟨l, r, hl, rfl⟩
  · by_cases hne : text = []
    · subst hne
      rw [lines]
      exact .nil
    · rw [(IsLines.last hne h).lines_eq]
      exact .last hne h
  · have : r.length < (l ++ r).length := by
      have := List.length_pos_of_ne_nil hl.ne_nil
      rw [List.length_append]
      omega
    rw [lines_append hl]
    exact .line hl (isLines_lines r)
termination_by text.length

/-- A text is cut into its lines. -/
theorem lines_eq_iff : lines text = ls ↔ IsLines text ls := by
  constructor
  · rintro rfl
    exact isLines_lines text
  · intro h
    exact h.lines_eq

lemma IsLines.eq_nil (h : IsLines [] ls) : ls = [] := by
  rw [← h.lines_eq, lines]

/-- A text has a first line, which ends with the only line feed in it or with the text. -/
lemma isLines_cons_iff : IsLines text (l :: ls) ↔
    ∃ rest, text = l ++ rest ∧ IsLines rest ls ∧
      (IsLine l ∨ l ≠ [] ∧ '\n' ∉ l ∧ rest = []) := by
  constructor
  · intro h
    cases h with
    | last hne h => exact ⟨[], by simp, .nil, .inr ⟨hne, h, rfl⟩⟩
    | line hl h => exact ⟨_, rfl, h, .inl hl⟩
  · rintro ⟨rest, rfl, h, hl | ⟨hne, hl, rfl⟩⟩
    · exact .line hl h
    · rw [h.eq_nil, List.append_nil]
      exact .last hne hl

/-- Every line in front of another one has its line feed. -/
lemma isLines_append_cons_iff {ms : List (List Char)} : IsLines text (ms ++ l :: ls) ↔
    (∀ m ∈ ms, IsLine m) ∧ ∃ rest, text = ms.flatten ++ rest ∧ IsLines rest (l :: ls) := by
  induction ms generalizing text with
  | nil => simp
  | cons m ms ih =>
    rw [List.cons_append, isLines_cons_iff, List.forall_mem_cons]
    constructor
    · rintro ⟨_, rfl, hrest, hm | ⟨-, -, rfl⟩⟩
      · obtain ⟨hms, rest, rfl, h⟩ := ih.1 hrest
        exact ⟨⟨hm, hms⟩, rest, by simp, h⟩
      · exact absurd hrest.eq_nil (by simp)
    · rintro ⟨⟨hm, hms⟩, rest, rfl, h⟩
      exact ⟨ms.flatten ++ rest, by simp, ih.2 ⟨hms, rest, rfl, h⟩, .inl hm⟩

/-! ### White space at the end -/

lemma trimEnd_eq_nil (h : isBlank cs = true) : trimEnd cs = [] := by
  induction cs with
  | nil => rfl
  | cons c cs ih =>
    simp only [isBlank, List.all_cons, Bool.and_eq_true] at h
    simp [trimEnd, ih h.2, h.1]

lemma trimEnd_append (h : isBlank r = true) (cs : List Char) : trimEnd (cs ++ r) = trimEnd cs := by
  induction cs with
  | nil => exact trimEnd_eq_nil h
  | cons c cs ih => simp only [List.cons_append, trimEnd, ih]

/-- What is taken off the end of a text is white space. -/
lemma exists_eq_trimEnd_append (cs : List Char) :
    ∃ r, isBlank r = true ∧ cs = trimEnd cs ++ r := by
  induction cs with
  | nil => exact ⟨[], rfl, rfl⟩
  | cons c cs ih =>
    obtain ⟨r, hr, hcs⟩ := ih
    simp only [trimEnd]
    split
    · next hnil =>
      rw [hnil, List.nil_append] at hcs
      split_ifs with hc
      · exact ⟨c :: cs, by simpa [isBlank, hc, hcs] using hr, rfl⟩
      · exact ⟨cs, hcs ▸ hr, rfl⟩
    · exact ⟨r, hr, by rw [List.cons_append, ← hcs]⟩

/-! ### White space at both ends -/

/-- The text is `cs` with white space around it. -/
def IsPadded (cs text : List Char) : Prop :=
  ∃ l r, isBlank l = true ∧ isBlank r = true ∧ text = l ++ cs ++ r

/-- A text without white space loses nothing. -/
lemma trimEnd_of_forall (h : ∀ c ∈ cs, isBlankChar c = false) : trimEnd cs = cs := by
  induction cs with
  | nil => rfl
  | cons c cs ih =>
    obtain ⟨hc, hcs⟩ := List.forall_mem_cons.1 h
    rw [trimEnd, ih hcs]
    cases cs with
    | nil => simp [hc]
    | cons d cs => rfl

lemma trimStart_append (h : isBlank l = true) (cs : List Char) :
    trimStart (l ++ cs) = trimStart cs :=
  List.dropWhile_append_of_pos (List.all_eq_true.1 h)

lemma isPadded_trim (text : List Char) : IsPadded (trim text) text := by
  obtain ⟨r, hr, htext⟩ := exists_eq_trimEnd_append (trimStart text)
  refine ⟨text.takeWhile isBlankChar, r, List.all_takeWhile, hr, ?_⟩
  rw [trim, List.append_assoc, ← htext, trimStart, List.takeWhile_append_dropWhile]

/-- A text without white space is what is left if it is the text inside the white space. -/
theorem trim_eq_iff (h : ∀ c ∈ cs, isBlankChar c = false) : trim text = cs ↔ IsPadded cs text := by
  constructor
  · rintro rfl
    exact isPadded_trim text
  · rintro ⟨l, r, hl, hr, rfl⟩
    rw [trim, List.append_assoc, trimStart_append hl]
    cases cs with
    | nil =>
      rw [List.nil_append, (trimStart_eq_nil_iff r).2 hr, trimEnd]
    | cons c cs =>
      have hc : isBlankChar c = false := (List.forall_mem_cons.1 h).1
      rw [trimStart, List.cons_append, List.dropWhile_cons_of_neg (by rw [hc]; decide),
        ← List.cons_append, trimEnd_append hr, trimEnd_of_forall h]

end Adventure.Text
