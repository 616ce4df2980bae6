import Adventure.Proofs.Action.Literals
import Adventure.Proofs.Action.Pattern

/-!
# Closing quotes

Which quote closes a literal is found by one pass over the text behind the opening quote, which
skips every backslash together with the quote behind it. No other quote could close the literal.

* `closingQuote?_eq_some_iff` : the closing quote, said of the characters in front of it.
* `ways_literal_eq` : a literal has one closing quote at most, and what stands in front of it is the
  interior that the quotes are taken off from.
-/

namespace Adventure.Action

/-- The place of the first quote that no backslash escapes. There is none where the text ends before
it, or where a backslash comes before it that is not in front of a quote. -/
def closingQuote? : List Char → Option Nat
  | []                => none
  | '"' :: _          => some 0
  | '\\' :: '"' :: cs => (closingQuote? cs).map (· + 2)
  | '\\' :: _         => none
  | _ :: cs           => (closingQuote? cs).map (· + 1)

/-- The interior of a literal: every quote is directly behind a backslash, and every backslash is
directly in front of a quote. -/
structure IsInterior (cs : List Char) : Prop where
  behind_backslash {i : Nat} (h : cs[i]? = some '"') : ∃ j, i = j + 1 ∧ cs[j]? = some '\\'
  before_quote {i : Nat} (h : cs[i]? = some '\\') : cs[i + 1]? = some '"'

/-! ### Interiors -/

variable {cs : List Char} {n : Nat}

lemma isInterior_nil : IsInterior [] := ⟨by simp, by simp⟩

lemma isInterior_cons {c : Char} (hq : c ≠ '"') (hb : c ≠ '\\') :
    IsInterior (c :: cs) ↔ IsInterior cs := by
  constructor
  · intro h
    refine ⟨fun {i} hi => ?_, fun {i} hi => h.before_quote (i := i + 1) hi⟩
    obtain ⟨j, hj, hback⟩ := h.behind_backslash (i := i + 1) hi
    obtain rfl : i = j := by omega
    cases i with
    | zero => exact absurd (Option.some.inj hback) hb
    | succ j => exact ⟨j, rfl, hback⟩
  · intro h
    refine ⟨fun {i} hi => ?_, fun {i} hi => ?_⟩
    · cases i with
      | zero => exact absurd (Option.some.inj hi) hq
      | succ i =>
        obtain ⟨j, rfl, hback⟩ := h.behind_backslash hi
        exact ⟨j + 1, rfl, hback⟩
    · cases i with
      | zero => exact absurd (Option.some.inj hi) hb
      | succ i => exact h.before_quote hi

/-- An escaped quote makes no difference to an interior. -/
lemma isInterior_escape : IsInterior ('\\' :: '"' :: cs) ↔ IsInterior cs := by
  constructor
  · intro h
    refine ⟨fun {i} hi => ?_, fun {i} hi => h.before_quote (i := i + 2) hi⟩
    obtain ⟨j, hj, hback⟩ := h.behind_backslash (i := i + 2) hi
    obtain rfl : j = i + 1 := by omega
    cases i with
    | zero => simp at hback
    | succ i => exact ⟨i, rfl, hback⟩
  · intro h
    refine ⟨fun {i} hi => ?_, fun {i} hi => ?_⟩
    · match i with
      | 0     => simp at hi
      | 1     => exact ⟨0, rfl, rfl⟩
      | i + 2 =>
        obtain ⟨j, rfl, hback⟩ := h.behind_backslash hi
        exact ⟨j + 2, rfl, hback⟩
    · match i with
      | 0     => rfl
      | 1     => simp at hi
      | i + 2 => exact h.before_quote hi

/-- What the rules take for the text between quotes is what its characters tell. -/
lemma literalBody_iff_isInterior : LiteralBody cs ↔ IsInterior cs := by
  constructor
  · intro h
    induction h with
    | nil => exact isInterior_nil
    | plain hq hb _ ih => exact (isInterior_cons hq hb).2 ih
    | escape _ ih => exact isInterior_escape.2 ih
  · intro h
    fun_induction closingQuote? cs with
    | case1 => exact .nil
    | case2 =>  -- a quote at the start is not escaped
      obtain ⟨j, hj, -⟩ := h.behind_backslash (i := 0) rfl
      cases hj
    | case3 cs ih => exact .escape (ih (isInterior_escape.1 h))
    | case4 cs hne =>  -- a backslash stands in front of something else
      have hquote := h.before_quote (i := 0) rfl
      obtain ⟨cs, rfl⟩ := List.head?_eq_some_iff.1 (List.head?_eq_getElem?.trans hquote)
      exact absurd rfl (hne cs)
    | case5 c cs hq _ hb ih => exact .plain hq hb (ih ((isInterior_cons hq hb).1 h))

/-- No backslash stands in front of the closing quote. -/
lemma IsInterior.getLast?_ne (h : IsInterior cs) : cs.getLast? ≠ some '\\' := by
  intro hlast
  rw [List.getLast?_eq_getElem?] at hlast
  have hquote := h.before_quote hlast
  have hlt := (List.getElem?_eq_some_iff.1 hquote).1
  omega

/-! ### The closing quote -/

/-- The closing quote stands directly behind the body of a literal. -/
lemma closingQuote?_of_body {body : List Char} (h : LiteralBody body) (r : List Char) :
    closingQuote? (body ++ '"' :: r) = some body.length := by
  induction h with
  | nil => rfl
  | @plain c cs hq hb h ih =>
    rw [List.cons_append, closingQuote?.eq_5 _ _ hq (by simp [hb]) hb, ih]
    rfl
  | escape h ih =>
    rw [List.cons_append, List.cons_append, closingQuote?.eq_3, ih]
    rfl

/-- What stands in front of a closing quote is the body of a literal. -/
lemma exists_of_closingQuote? (h : closingQuote? cs = some n) :
    ∃ body r, LiteralBody body ∧ cs = body ++ '"' :: r ∧ n = body.length := by
  fun_induction closingQuote? cs generalizing n with
  | case1 => cases h
  | case2 cs =>
    obtain rfl := Option.some.inj h
    exact ⟨[], cs, .nil, rfl, rfl⟩
  | case3 cs ih =>
    obtain ⟨m, hm, rfl⟩ := Option.map_eq_some_iff.1 h
    obtain ⟨body, r, hbody, rfl, rfl⟩ := ih hm
    exact ⟨_, r, .escape hbody, rfl, rfl⟩
  | case4 => cases h
  | case5 c cs hq _ hb ih =>
    obtain ⟨m, hm, rfl⟩ := Option.map_eq_some_iff.1 h
    obtain ⟨body, r, hbody, rfl, rfl⟩ := ih hm
    exact ⟨_, r, .plain hq hb hbody, rfl, rfl⟩

/-- The closing quote is the one behind an interior. -/
theorem closingQuote?_eq_some_iff :
    closingQuote? cs = some n ↔ cs[n]? = some '"' ∧ IsInterior (cs.take n) := by
  constructor
  · intro h
    obtain ⟨body, r, hbody, rfl, rfl⟩ := exists_of_closingQuote? h
    rw [List.take_left, ← literalBody_iff_isInterior]
    exact ⟨by simp, hbody⟩
  · rintro ⟨hn, hbody⟩
    obtain ⟨hlt, hquote⟩ := List.getElem?_eq_some_iff.1 hn
    have hcs : cs = cs.take n ++ '"' :: cs.drop (n + 1) := by
      rw [← hquote, ← List.drop_eq_getElem_cons hlt, List.take_append_drop]
    have hclose := closingQuote?_of_body (literalBody_iff_isInterior.2 hbody) (cs.drop (n + 1))
    rwa [← hcs, List.length_take_of_le (Nat.le_of_lt hlt)] at hclose

/-- The lexer cuts the rest of a literal directly behind its closing quote. -/
lemma cutLiteralRest_eq (cs : List Char) :
    cutLiteralRest cs = (closingQuote? cs).map fun n => cs.splitAt (n + 1) := by
  fun_induction closingQuote? cs with
  | case1 => rfl
  | case2 => simp [cutLiteralRest]
  | case3 cs ih =>
    rw [cutLiteralRest, ih]
    simp [Option.map_map, Function.comp_def]
  | case4 cs hne =>
    rw [cutLiteralRest.eq_4 _ (by simpa using hne)]
    rfl
  | case5 c cs hq hne hb ih =>
    rw [cutLiteralRest.eq_5 _ _ hq hne hb, ih]
    simp [Option.map_map, Function.comp_def]

/-! ### Literals -/

lemma cut_string_eq (cs : List Char) :
    TokenKind.string.cut ('"' :: cs) =
      (closingQuote? cs).map fun n => ('"' :: cs).splitAt (n + 2) := by
  rw [TokenKind.cut, cutString, cutLiteralRest_eq]
  simp [Option.map_map, Function.comp_def]

lemma cut_mdString_eq (cs : List Char) :
    TokenKind.mdString.cut ('m' :: '"' :: cs) =
      (closingQuote? cs).map fun n => ('m' :: '"' :: cs).splitAt (n + 3) := by
  rw [TokenKind.cut, cutMdString, cutLiteralRest_eq]
  simp [Option.map_map, Function.comp_def]

/-- What the quote at the place `n` makes of the text between the opening quote and itself. -/
structure Closes (cs : List Char) (n : Nat) : Prop where
  isInterior : IsInterior (cs.take n)
  getLast?_ne : (cs.take n).getLast? ≠ some '\\'
  /-- A literal begins and ends in a quote, and these are two. -/
  lexeme_eq : ('"' :: cs).take (n + 2) = '"' :: (cs.take n ++ ['"'])
  two_le_length : 2 ≤ (('"' :: cs).take (n + 2)).length
  three_le_length : 3 ≤ (('m' :: '"' :: cs).take (n + 3)).length
  /-- Taking off the quotes leaves the interior. -/
  unquote_eq : unquote (('"' :: cs).take (n + 2)) = some (cs.take n)
  unquote_singleLine_eq :
    unquote (singleLine (('"' :: cs).take (n + 2))) = some (singleLine (cs.take n))
  mdInterior_eq : mdInterior (('m' :: '"' :: cs).take (n + 3)) = unescapeQuotes (cs.take n)

/-- The quote that is found closes the literal in every sense: it is the first one that is not
escaped, and what stands in front of it is an interior. -/
lemma closes_of_closingQuote? (h : closingQuote? cs = some n) : Closes cs n := by
  obtain ⟨hn, hinterior⟩ := closingQuote?_eq_some_iff.1 h
  have hbody := literalBody_iff_isInterior.2 hinterior
  have htake : cs.take (n + 1) = cs.take n ++ ['"'] := by
    rw [List.take_add_one, hn]
    rfl
  have hlexeme : ('"' :: cs).take (n + 2) = '"' :: (cs.take n ++ ['"']) := by
    rw [List.take_succ_cons, htake]
  have hmd : ('m' :: '"' :: cs).take (n + 3) = 'm' :: '"' :: (cs.take n ++ ['"']) := by
    rw [List.take_succ_cons, hlexeme]
  exact {
    isInterior := hinterior
    getLast?_ne := hinterior.getLast?_ne
    lexeme_eq := hlexeme
    two_le_length := by simp [hlexeme]
    three_le_length := by simp [hmd]
    unquote_eq := by rw [hlexeme, unquote_quoted_of_getLast? hinterior.getLast?_ne]
    unquote_singleLine_eq := by
      rw [hlexeme, singleLine_quoted, unquote_quoted (escaped_singleLine hbody)]
    mdInterior_eq := by rw [hmd, mdInterior]; simp }

/-- A literal has one way to be matched at most: up to the closing quote. -/
theorem ways_literal_eq (cs : List Char) :
    TokenKind.string.pattern.ways ([], '"' :: cs) =
        ((closingQuote? cs).map fun n => ('"' :: cs).splitAt (n + 2)).toList ∧
      TokenKind.mdString.pattern.ways ([], 'm' :: '"' :: cs) =
        ((closingQuote? cs).map fun n => ('m' :: '"' :: cs).splitAt (n + 3)).toList ∧
      TokenKind.string.cut ('"' :: cs) =
        (closingQuote? cs).map (fun n => ('"' :: cs).splitAt (n + 2)) ∧
      TokenKind.mdString.cut ('m' :: '"' :: cs) =
        (closingQuote? cs).map (fun n => ('m' :: '"' :: cs).splitAt (n + 3)) ∧
      ∀ n, (closingQuote? cs = some n ↔ cs[n]? = some '"' ∧ IsInterior (cs.take n)) ∧
        (closingQuote? cs = some n → Closes cs n) := by
  refine ⟨?_, ?_, cut_string_eq cs, cut_mdString_eq cs, fun n => ?_⟩
  · rw [TokenKind.ways_pattern _ (by decide), cut_string_eq]
  · rw [TokenKind.ways_pattern _ (by decide), cut_mdString_eq]
  · exact ⟨closingQuote?_eq_some_iff, closes_of_closingQuote?⟩

/-- The escaped quote does not close the literal, and the last one comes too late. Where the
backslash in front of a quote is behind another one, nothing is matched. -/
theorem ways_literal_eq_escaped :
    closingQuote? ['a', '\\', '"', '"', 'b', '"'] = some 3 ∧
      Closes ['a', '\\', '"', '"', 'b', '"'] 3 ∧
      closingQuote? ['a', '\\', '\\', '"'] = none ∧
      TokenKind.string.pattern.ways ([], ['"', 'a', '\\', '\\', '"']) = [] := by
  have hclose : closingQuote? ['a', '\\', '"', '"', 'b', '"'] = some 3 := by decide
  refine ⟨hclose, ((ways_literal_eq _).2.2.2.2 3).2 hclose, by decide, ?_⟩
  rw [(ways_literal_eq _).1]
  decide

end Adventure.Action
