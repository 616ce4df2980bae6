import Adventure.Action.Lexer
import Adventure.Proofs.Number.Numeral
import Mathlib.Tactic.Common

/-!
# Lexemes

What the rules of the lexer cut off a text, said without the rules: the lexemes of each kind of
token, and the texts in front of which a lexeme may end.

* `TokenKind.cut_eq_some_iff` : a rule cuts off a lexeme of its kind that may end there.
-/

namespace Adventure.Action

open Text Number

/-! ### Word characters -/

/-- The letters are two ranges of code points. -/
lemma isAlpha_iff {c : Char} :
    c.isAlpha = true ↔
      65 ≤ c.toNat ∧ c.toNat ≤ 90 ∨ 97 ≤ c.toNat ∧ c.toNat ≤ 122 := by
  show (decide (65 ≤ c.val ∧ c.val ≤ 90) ||
    (decide (97 ≤ c.val) && decide (c.val ≤ 122))) = true ↔ _
  simp only [Bool.or_eq_true, Bool.and_eq_true, decide_eq_true_eq, UInt32.le_iff_toNat_le]
  rfl

lemma toNat_lt_of_isAsciiWord {c : Char} (h : isAsciiWord c = true) : c.toNat < 128 := by
  rcases Bool.or_eq_true_iff.1 h with h | h
  · rcases Bool.or_eq_true_iff.1 h with h | h
    · have := isAlpha_iff.1 h
      omega
    · have := Char.isDigit_iff_toNat.1 h
      exact Nat.lt_of_le_of_lt this.2 (by decide)
  · rw [beq_iff_eq.1 h]
    decide

lemma isWord_of_isAsciiWord {c : Char} (h : isAsciiWord c = true) : isWord c = true := by
  rw [isWord, if_pos (toNat_lt_of_isAsciiWord h), h]

lemma isAsciiWord_of_isDigit {c : Char} (h : c.isDigit = true) : isAsciiWord c = true := by
  simp [isAsciiWord, Char.isAlphanum, h]

lemma isAsciiWord_of_isAlpha {c : Char} (h : c.isAlpha = true) : isAsciiWord c = true := by
  simp [isAsciiWord, Char.isAlphanum, h]

lemma isAlpha_eq_false_of_isDigit {c : Char} (h : c.isDigit = true) : c.isAlpha = false := by
  have hdigit : 48 ≤ c.toNat ∧ c.toNat ≤ 57 := Char.isDigit_iff_toNat.1 h
  rw [Bool.eq_false_iff, Ne, isAlpha_iff]
  omega

lemma head_of_atWordEnd {cs : List Char} (h : atWordEnd cs = true) :
    ∀ c ∈ cs.head?, isWord c = false := by
  intro c hc
  obtain ⟨cs, rfl⟩ := List.head?_eq_some_iff.1 hc
  simpa [atWordEnd] using h

/-- A longest run of characters that satisfy `p` ends where the next one does not. -/
lemma cutWhile_eq_iff {p : Char → Bool} {cs l r : List Char} :
    cutWhile p cs = (l, r) ↔
      cs = l ++ r ∧ (∀ c ∈ l, p c = true) ∧ ∀ c ∈ r.head?, p c = false := by
  induction cs generalizing l with
  | nil =>
    constructor
    · intro h
      obtain ⟨rfl, rfl⟩ := Prod.mk.inj h
      simp
    · rintro ⟨h, -, -⟩
      obtain ⟨rfl, rfl⟩ := List.append_eq_nil_iff.1 h.symm
      rfl
  | cons c cs ih =>
    by_cases hc : p c = true
    · simp only [cutWhile, hc, if_true, Prod.mk.injEq]
      constructor
      · rintro ⟨rfl, rfl⟩
        obtain ⟨happ, hl, hr⟩ := ih.1 rfl
        exact ⟨congrArg (c :: ·) happ, by simpa [hc] using hl, hr⟩
      · rintro ⟨happ, hl, hr⟩
        cases l with
        | nil => simp [← List.nil_append r ▸ happ, hc] at hr
        | cons a l =>
          obtain ⟨rfl, rfl⟩ := List.cons.inj happ
          rw [ih.2 ⟨rfl, fun x hx => hl x (List.mem_cons_of_mem _ hx), hr⟩]
          exact ⟨rfl, rfl⟩
    · simp only [cutWhile, hc]
      constructor
      · intro h
        obtain ⟨rfl, rfl⟩ := Prod.mk.inj h
        simp [hc]
      · rintro ⟨happ, hl, -⟩
        cases l with
        | nil => simp [happ]
        | cons a l =>
          obtain ⟨rfl, -⟩ := List.cons.inj happ
          exact absurd (hl _ (List.mem_cons_self ..)) hc

lemma atBoundary_eq_some_iff {l r a b : List Char} :
    atBoundary l r = some (a, b) ↔ l = a ∧ r = b ∧ atWordEnd r = true := by
  rw [atBoundary]
  split_ifs with h <;> simp [h]

/-! ### Literals -/

/-- The text between the quotes of a literal: backslashes stand before quotes, and quotes only
after a backslash. -/
inductive LiteralBody : List Char → Prop
  | nil : LiteralBody []
  | plain {c : Char} {cs : List Char} (hq : c ≠ '"') (hb : c ≠ '\\') (h : LiteralBody cs) :
      LiteralBody (c :: cs)
  | escape {cs : List Char} (h : LiteralBody cs) : LiteralBody ('\\' :: '"' :: cs)

/-- The lexer takes the body of a literal and the quote behind it. -/
lemma cutLiteralRest_of_body {body : List Char} (h : LiteralBody body) (r : List Char) :
    cutLiteralRest (body ++ '"' :: r) = some (body ++ ['"'], r) := by
  induction h with
  | nil => rfl
  | @plain c cs hq hb h ih =>
    rw [List.cons_append, cutLiteralRest.eq_5 _ _ hq (by simp [hb]) hb, ih]
    rfl
  | escape h ih =>
    rw [List.cons_append, List.cons_append, cutLiteralRest.eq_3, ih]
    rfl

/-- The rest of a literal is a body and its closing quote. -/
theorem cutLiteralRest_eq_some_iff {cs l r : List Char} :
    cutLiteralRest cs = some (l, r) ↔
      ∃ body, LiteralBody body ∧ l = body ++ ['"'] ∧ cs = l ++ r := by
  constructor
  · intro h
    fun_induction cutLiteralRest cs generalizing l with
    | case1 => simp at h
    | case2 cs =>  -- the closing quote
      obtain ⟨rfl, rfl⟩ := Prod.mk.inj (Option.some.inj h)
      exact ⟨[], .nil, rfl, rfl⟩
    | case3 cs ih =>  -- an escaped quote
      obtain ⟨⟨a, b⟩, hab, he⟩ := Option.map_eq_some_iff.1 h
      obtain ⟨rfl, rfl⟩ := Prod.mk.inj he
      obtain ⟨body, hbody, rfl, rfl⟩ := ih hab
      exact ⟨_, .escape hbody, rfl, rfl⟩
    | case4 => simp at h
    | case5 c cs hq _ hb ih =>  -- any other character
      obtain ⟨⟨a, b⟩, hab, he⟩ := Option.map_eq_some_iff.1 h
      obtain ⟨rfl, rfl⟩ := Prod.mk.inj he
      obtain ⟨body, hbody, rfl, rfl⟩ := ih hab
      exact ⟨_, .plain hq hb hbody, rfl, rfl⟩
  · rintro ⟨body, hbody, rfl, rfl⟩
    rw [List.append_assoc]
    exact cutLiteralRest_of_body hbody r

/-! ### Kinds of lexemes -/

/-- An identifier: an ASCII letter and then ASCII letters, digits and underscores. -/
def IsIdentifier (l : List Char) : Prop :=
  ∃ c cs, l = c :: cs ∧ c.isAlpha = true ∧ ∀ x ∈ cs, isAsciiWord x = true

lemma IsIdentifier.isAsciiWord {l : List Char} (h : IsIdentifier l) :
    ∀ x ∈ l, isAsciiWord x = true := by
  obtain ⟨c, cs, rfl, hc, hcs⟩ := h
  exact List.forall_mem_cons.2 ⟨isAsciiWord_of_isAlpha hc, hcs⟩

namespace TokenKind

/-- The lexemes of a kind. -/
def Matches : TokenKind → List Char → Prop
  | .keyword k,  l => l = k.name.toList
  | .mdString,   l => ∃ body, LiteralBody body ∧ l = 'm' :: '"' :: (body ++ ['"'])
  | .string,     l => ∃ body, LiteralBody body ∧ l = '"' :: (body ++ ['"'])
  | .integer,    l => ∃ n, Numeral l n
  | .identifier, l => IsIdentifier l
  | .oparen,     l => l = ['(']
  | .cparen,     l => l = [')']
  | .comma,      l => l = [',']
  | .whitespace, l => l ≠ [] ∧ ∀ c ∈ l, isSpace c = true

/-- The texts in front of which a lexeme of this kind may end: a word ends where no word character
follows, and white space where no white space follows. -/
def StopsBefore : TokenKind → List Char → Prop
  | .keyword _, r | .integer, r | .identifier, r => atWordEnd r = true
  | .whitespace, r                               => ∀ c ∈ r.head?, isSpace c = false
  | _, _                                         => True

end TokenKind

/-! ### What each rule cuts off -/

lemma dropWord_eq_some_iff {w cs r : List Char} : dropWord w cs = some r ↔ cs = w ++ r := by
  constructor
  · intro h
    exact (dropWord_append h).symm
  · rintro rfl
    induction w with
    | nil => rfl
    | cons a w ih => simpa [dropWord] using ih

lemma cutWord_eq_some_iff {w cs l r : List Char} :
    cutWord w cs = some (l, r) ↔ cs = l ++ r ∧ l = w ∧ atWordEnd r = true := by
  simp only [cutWord, Option.bind_eq_some_iff, dropWord_eq_some_iff, atBoundary_eq_some_iff]
  constructor
  · rintro ⟨r, rfl, rfl, rfl, h⟩
    exact ⟨rfl, rfl, h⟩
  · rintro ⟨rfl, rfl, h⟩
    exact ⟨r, rfl, rfl, rfl, h⟩

lemma cutString_eq_some_iff {cs l r : List Char} :
    cutString cs = some (l, r) ↔ cs = l ++ r ∧ TokenKind.string.Matches l := by
  constructor
  · intro h
    unfold cutString at h
    split at h
    · obtain ⟨⟨a, b⟩, hab, he⟩ := Option.map_eq_some_iff.1 h
      obtain ⟨rfl, rfl⟩ := Prod.mk.inj he
      obtain ⟨body, hbody, rfl, rfl⟩ := cutLiteralRest_eq_some_iff.1 hab
      exact ⟨rfl, body, hbody, rfl⟩
    · simp at h
  · rintro ⟨rfl, body, hbody, rfl⟩
    simp [cutString, cutLiteralRest_of_body hbody]

/-- The rule for Markdown literals is the one for string literals after the letter `m`. -/
lemma cutMdString_eq (cs : List Char) :
    cutMdString ('m' :: cs) = (cutString cs).map fun (l, r) => ('m' :: l, r) := by
  unfold cutMdString cutString
  split
  · next h =>
    obtain ⟨-, rfl⟩ := List.cons.inj h
    simp [Option.map_map, Function.comp_def]
  · next h =>
    split
    · next cs' => exact absurd rfl (h cs')
    · rfl

/-- A Markdown literal is a string literal behind the letter `m`. -/
lemma cutMdString_eq_some_iff {cs l r : List Char} :
    cutMdString cs = some (l, r) ↔ cs = l ++ r ∧ TokenKind.mdString.Matches l := by
  constructor
  · intro h
    obtain ⟨cs, rfl⟩ : ∃ cs', cs = 'm' :: cs' := by
      unfold cutMdString at h
      split at h
      · exact ⟨_, rfl⟩
      · simp at h
    rw [cutMdString_eq] at h
    obtain ⟨⟨a, b⟩, hab, he⟩ := Option.map_eq_some_iff.1 h
    obtain ⟨rfl, rfl⟩ := Prod.mk.inj he
    obtain ⟨rfl, body, hbody, rfl⟩ := cutString_eq_some_iff.1 hab
    exact ⟨rfl, body, hbody, rfl⟩
  · rintro ⟨rfl, body, hbody, rfl⟩
    have hcut : cutString ('"' :: (body ++ ['"']) ++ r) = some ('"' :: (body ++ ['"']), r) :=
      cutString_eq_some_iff.2 ⟨rfl, body, hbody, rfl⟩
    rw [List.cons_append, cutMdString_eq, hcut]
    rfl

/-- Digits are cut off as far as they go, unless a word goes on behind them. -/
lemma cutDigits_eq_some_iff {cs l r : List Char} :
    cutDigits cs = some (l, r) ↔ cs = l ++ r ∧ isDigits l = true ∧ atWordEnd r = true := by
  constructor
  · intro h
    unfold cutDigits at h
    split at h
    · simp at h
    · next a b hne heq =>
      obtain ⟨happ, ha, -⟩ := cutWhile_eq_iff.1 heq
      obtain ⟨rfl, rfl, hb⟩ := atBoundary_eq_some_iff.1 h
      exact ⟨happ, isDigits_iff.2 ⟨hne, ha⟩, hb⟩
  · rintro ⟨rfl, hl, hr⟩
    obtain ⟨hne, hd⟩ := isDigits_iff.1 hl
    -- Digits are word characters, so they do not go on behind the end of a word.
    have hstop : ∀ c ∈ r.head?, c.isDigit = false := by
      intro c hc
      by_contra hdigit
      rw [Bool.not_eq_false] at hdigit
      exact absurd (isWord_of_isAsciiWord (isAsciiWord_of_isDigit hdigit))
        (by simp [head_of_atWordEnd hr c hc])
    have hcut : cutWhile Char.isDigit (l ++ r) = (l, r) := cutWhile_eq_iff.2 ⟨rfl, hd, hstop⟩
    simp [cutDigits, hcut, atBoundary, hr]

/-- An integer is cut off together with its sign, unless a word goes on behind it. -/
lemma cutInteger_eq_some_iff {cs l r : List Char} :
    cutInteger cs = some (l, r) ↔ cs = l ++ r ∧ (∃ n, Numeral l n) ∧ atWordEnd r = true := by
  constructor
  · intro h
    unfold cutInteger at h
    split at h
    · obtain ⟨⟨a, b⟩, hab, he⟩ := Option.map_eq_some_iff.1 h
      obtain ⟨rfl, rfl⟩ := Prod.mk.inj he
      obtain ⟨rfl, ha, hb⟩ := cutDigits_eq_some_iff.1 hab
      exact ⟨rfl, ⟨_, .plus ha⟩, hb⟩
    · obtain ⟨⟨a, b⟩, hab, he⟩ := Option.map_eq_some_iff.1 h
      obtain ⟨rfl, rfl⟩ := Prod.mk.inj he
      obtain ⟨rfl, ha, hb⟩ := cutDigits_eq_some_iff.1 hab
      exact ⟨rfl, ⟨_, .minus ha⟩, hb⟩
    · obtain ⟨rfl, hl, hr⟩ := cutDigits_eq_some_iff.1 h
      exact ⟨rfl, ⟨_, .unsigned hl⟩, hr⟩
  · rintro ⟨rfl, ⟨n, h | h | h⟩, hr⟩
    · -- Without a sign the first character is a digit, which the cases for a sign rule out.
      obtain ⟨d, ds, rfl⟩ := List.exists_cons_of_ne_nil (isDigits_iff.1 h).1
      have hd := isDigits_head h
      have hcut : cutDigits (d :: ds ++ r) = some (d :: ds, r) :=
        cutDigits_eq_some_iff.2 ⟨rfl, h, hr⟩
      rw [List.cons_append] at hcut ⊢
      rw [cutInteger.eq_3, hcut]
      · rintro cs ⟨rfl, -⟩
        exact absurd hd (by decide)
      · rintro cs ⟨rfl, -⟩
        exact absurd hd (by decide)
    · simp [cutInteger, cutDigits_eq_some_iff.2 ⟨rfl, h, hr⟩]
    · simp [cutInteger, cutDigits_eq_some_iff.2 ⟨rfl, h, hr⟩]

/-- An identifier is cut off as far as it goes. A word character outside ASCII behind it is in the
way. -/
lemma cutIdentifier_eq_some_iff {cs l r : List Char} :
    cutIdentifier cs = some (l, r) ↔ cs = l ++ r ∧ IsIdentifier l ∧ atWordEnd r = true := by
  constructor
  · intro h
    unfold cutIdentifier at h
    split at h
    · simp at h
    · next c cs =>
      split_ifs at h with hc
      obtain ⟨happ, hl, -⟩ := cutWhile_eq_iff.1 (rfl : cutWhile isAsciiWord cs = (_, _))
      obtain ⟨rfl, rfl, hr⟩ := atBoundary_eq_some_iff.1 h
      exact ⟨congrArg (c :: ·) happ, ⟨c, _, rfl, hc, hl⟩, hr⟩
  · rintro ⟨rfl, ⟨c, cs, rfl, hc, hcs⟩, hr⟩
    have hstop : ∀ c ∈ r.head?, isAsciiWord c = false := by
      intro c hc
      by_contra hword
      rw [Bool.not_eq_false] at hword
      exact absurd (isWord_of_isAsciiWord hword) (by simp [head_of_atWordEnd hr c hc])
    have hcut : cutWhile isAsciiWord (cs ++ r) = (cs, r) := cutWhile_eq_iff.2 ⟨rfl, hcs, hstop⟩
    simp [cutIdentifier, hc, hcut, atBoundary, hr]

lemma cutChar_eq_some_iff {x : Char} {cs l r : List Char} :
    cutChar x cs = some (l, r) ↔ cs = l ++ r ∧ l = [x] := by
  cases cs with
  | nil => simp +contextual [cutChar]
  | cons c cs =>
    simp only [cutChar, Option.ite_none_right_eq_some, Option.some.injEq, Prod.mk.injEq]
    constructor
    · rintro ⟨rfl, rfl, rfl⟩
      exact ⟨rfl, rfl⟩
    · rintro ⟨h, rfl⟩
      obtain ⟨rfl, rfl⟩ := List.cons.inj h
      exact ⟨rfl, rfl, rfl⟩

/-- White space is cut off as far as it goes. -/
lemma cutSpaces_eq_some_iff {cs l r : List Char} :
    cutSpaces cs = some (l, r) ↔
      cs = l ++ r ∧ TokenKind.whitespace.Matches l ∧ TokenKind.whitespace.StopsBefore r := by
  constructor
  · intro h
    unfold cutSpaces at h
    split at h
    · simp at h
    · next a b hne heq =>
      obtain ⟨rfl, rfl⟩ := Prod.mk.inj (Option.some.inj h)
      obtain ⟨happ, ha, hb⟩ := cutWhile_eq_iff.1 heq
      exact ⟨happ, ⟨hne, ha⟩, hb⟩
  · rintro ⟨rfl, ⟨hne, hl⟩, hr⟩
    have hcut : cutWhile isSpace (l ++ r) = (l, r) := cutWhile_eq_iff.2 ⟨rfl, hl, hr⟩
    simp [cutSpaces, hcut]

/-- A rule cuts off exactly the lexemes of its kind, in front of the texts where they may end. -/
theorem TokenKind.cut_eq_some_iff {k : TokenKind} {cs l r : List Char} :
    k.cut cs = some (l, r) ↔ cs = l ++ r ∧ k.Matches l ∧ k.StopsBefore r := by
  cases k with
  | keyword k => exact cutWord_eq_some_iff
  | mdString => simpa [cut, StopsBefore] using cutMdString_eq_some_iff
  | string => simpa [cut, StopsBefore] using cutString_eq_some_iff
  | integer => exact cutInteger_eq_some_iff
  | identifier => exact cutIdentifier_eq_some_iff
  | oparen | cparen | comma => simpa [cut, Matches, StopsBefore] using cutChar_eq_some_iff
  | whitespace => exact cutSpaces_eq_some_iff

end Adventure.Action
