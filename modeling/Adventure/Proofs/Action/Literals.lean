import Adventure.Action.Literal
import Adventure.Proofs.Action.Lexeme

/-!
# Literals in statements

The text that a statement has between two quotes is escaped: it stays on one line, and a reader that
skips escapes finds its closing quote and no other.

* `escaped_singleLine`, `escaped_escapeChar` : what the two ways of writing a literal produce.
* `unquote_quoted`, `unquote_identifier` : names lose their quotes and nothing else.
-/

namespace Adventure.Action

open Text

/-- Text of a literal on one line: ordinary characters, and escapes of a backslash and one of the
characters `escapes`. -/
inductive Escaped (escapes : List Char) : List Char → Prop
  | nil : Escaped escapes []
  | plain {c : Char} {cs : List Char} (hc : c ∉ ['"', '\\', '\n', '\r']) (h : Escaped escapes cs) :
      Escaped escapes (c :: cs)
  | escape {e : Char} {cs : List Char} (he : e ∈ escapes) (h : Escaped escapes cs) :
      Escaped escapes ('\\' :: e :: cs)

/-- The escapes in names: of a quote and of a line feed. -/
def nameEscapes : List Char := ['"', 'n']

/-- The escapes in values: those in names, and that of a backslash. -/
def valueEscapes : List Char := ['"', 'n', '\\']

lemma nameEscapes_subset_valueEscapes : nameEscapes ⊆ valueEscapes := by
  simp [nameEscapes, valueEscapes]

namespace Escaped

variable {escapes : List Char} {cs ds : List Char}

lemma append (h : Escaped escapes cs) (h' : Escaped escapes ds) : Escaped escapes (cs ++ ds) := by
  induction h with
  | nil => exact h'
  | plain hc _ ih => exact .plain hc ih
  | escape he _ ih => exact .escape he ih

lemma mono {escapes' : List Char} (hsub : escapes ⊆ escapes') (h : Escaped escapes cs) :
    Escaped escapes' cs := by
  induction h with
  | nil => exact .nil
  | plain hc _ ih => exact .plain hc ih
  | escape he _ ih => exact .escape (hsub he) ih

/-- Escaped text stays on one line. -/
lemma not_mem {x : Char} (hx : x = '\n' ∨ x = '\r') (hesc : x ∉ escapes) (h : Escaped escapes cs) :
    x ∉ cs := by
  induction h with
  | nil => simp
  | @plain c cs hc _ ih =>
    have hne : x ≠ c := by
      rintro rfl
      rcases hx with rfl | rfl <;> simp at hc
    simp [hne, ih]
  | @escape e cs he _ ih =>
    have hne : x ≠ e := by
      rintro rfl
      exact hesc he
    rcases hx with rfl | rfl <;> simp [hne, ih]

/-- Escaped text in which no backslash is escaped does not end in a backslash. -/
lemma getLast?_ne (hesc : '\\' ∉ escapes) (h : Escaped escapes cs) : cs.getLast? ≠ some '\\' := by
  induction h with
  | nil => simp
  | @plain c cs hc h ih =>
    cases cs with
    | nil =>
      rintro he
      obtain rfl := Option.some.inj he
      simp at hc
    | cons d cs => rwa [List.getLast?_cons_cons]
  | @escape e cs he h ih =>
    cases cs with
    | nil =>
      rintro hl
      obtain rfl : e = '\\' := Option.some.inj hl
      exact hesc he
    | cons d cs => rwa [List.getLast?_cons_cons, List.getLast?_cons_cons]

end Escaped

/-! ### How literals are written -/

lemma singleLine_append (cs ds : List Char) :
    singleLine (cs ++ ds) = singleLine cs ++ singleLine ds :=
  List.flatMap_append ..

lemma singleLine_cons {c : Char} (hr : c ≠ '\r') (hn : c ≠ '\n') (cs : List Char) :
    singleLine (c :: cs) = c :: singleLine cs := by
  simp only [singleLine, List.flatMap_cons, List.singleton_append]

lemma singleLine_quoted (body : List Char) :
    singleLine ('"' :: (body ++ ['"'])) = '"' :: (singleLine body ++ ['"']) := by
  rw [singleLine_cons (by decide) (by decide), singleLine_append]
  rfl

/-- On one line, the body of a literal has the escapes of names. -/
lemma escaped_singleLine {body : List Char} (h : LiteralBody body) :
    Escaped nameEscapes (singleLine body) := by
  induction h with
  | nil => exact .nil
  | @plain c cs hq hb h ih =>
    by_cases hr : c = '\r'
    · subst hr
      exact ih
    by_cases hn : c = '\n'
    · subst hn
      exact .escape (by decide) ih
    rw [singleLine_cons hr hn]
    exact .plain (by simp [hq, hb, hr, hn]) ih
  | escape h ih => exact .escape (by decide) ih

/-- What is quoted has the escapes of values. -/
lemma escaped_escapeChar (cs : List Char) : Escaped valueEscapes (cs.flatMap escapeChar) := by
  induction cs with
  | nil => exact .nil
  | cons c cs ih =>
    refine Escaped.append ?_ ih
    unfold escapeChar
    split
    · exact .escape (by decide) .nil
    · exact .escape (by decide) .nil
    · exact .escape (by decide) .nil
    · exact .nil
    · next hq hb hn hr => exact .plain (by simpa using ⟨hq, hb, hn, hr⟩) .nil

/-! ### How names lose their quotes -/

/-- A text between quotes loses them unless a backslash makes the last one part of the text. -/
lemma unquote_quoted_of_getLast? {cs : List Char} (hne : cs.getLast? ≠ some '\\') :
    unquote ('"' :: (cs ++ ['"'])) = some cs := by
  have hlast : endsInQuote ('"' :: (cs ++ ['"'])) = true := by
    rw [← List.cons_append, endsInQuote, List.getLast?_concat]
    rfl
  -- The closing quote is escaped only if the last character in front of it is a backslash.
  have hesc : endsInEscapedQuote ('"' :: (cs ++ ['"'])) = false := by
    unfold endsInEscapedQuote
    split
    · next tail hrev =>
      simp only [List.reverse_cons, List.reverse_append, List.reverse_nil, List.nil_append,
        List.cons_append, List.cons.injEq, true_and] at hrev
      rw [List.getLast?_eq_head?_reverse] at hne
      cases hcs : cs.reverse with
      | nil => simp [hcs] at hrev
      | cons x xs =>
        rw [hcs, List.cons_append] at hrev
        exact absurd (by rw [hcs, (List.cons.inj hrev).1]; rfl) hne
    · rfl
  simp [unquote, hlast, hesc]

/-- A name between quotes loses just the quotes. -/
lemma unquote_quoted {cs : List Char} (h : Escaped nameEscapes cs) :
    unquote ('"' :: (cs ++ ['"'])) = some cs :=
  unquote_quoted_of_getLast? (h.getLast?_ne (by decide))

/-- Nothing in a word needs an escape. -/
lemma not_mem_of_isAsciiWord {c : Char} (h : isAsciiWord c = true) :
    c ∉ ['"', '\\', '\n', '\r'] := by
  intro hmem
  simp only [List.mem_cons, List.not_mem_nil, or_false] at hmem
  rcases hmem with rfl | rfl | rfl | rfl <;> exact absurd h (by decide)

lemma escaped_of_isAsciiWord {escapes cs : List Char} (h : ∀ c ∈ cs, isAsciiWord c = true) :
    Escaped escapes cs := by
  induction cs with
  | nil => exact .nil
  | cons c cs ih =>
    obtain ⟨hc, hcs⟩ := List.forall_mem_cons.1 h
    exact .plain (not_mem_of_isAsciiWord hc) (ih hcs)

lemma unquote_identifier {l : List Char} (h : IsIdentifier l) : unquote l = some l := by
  have hword : ∀ x ∈ l, x ≠ '"' := by
    rintro x hx rfl
    exact absurd (h.isAsciiWord _ hx) (by decide)
  have hopens : l.head? ≠ some '"' := fun hh => hword _ (List.mem_of_mem_head? hh) rfl
  have hcloses : endsInQuote l = false := by
    simpa [endsInQuote] using fun hl => hword _ (List.mem_of_mem_getLast? hl) rfl
  simp [unquote, hopens, hcloses]

end Adventure.Action
