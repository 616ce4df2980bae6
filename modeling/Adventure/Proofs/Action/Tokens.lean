import Adventure.Proofs.Action.Lexeme
import Mathlib.Data.List.Chain

/-!
# The tokens of a text

Which sequences of tokens the lexer produces. Whether it does is a matter of each token alone and of
each pair of neighbours, so that a text can be cut, spaced out or put together at the boundaries of
its tokens.

* `overrides_or_overrides` : two rules that apply to the same text.
* `nextToken_eq_some_iff` : the first token of a text.
* `tokenize_eq_ok_iff` : the tokens of a text.
-/

namespace Adventure.Action

open Text Number

/-! ### The first character of a lexeme -/

/-- What the first character of a lexeme tells about its kind. -/
inductive Opening where
  | letter | quote | number | space
  | mark (c : Char)

def Opening.ofChar (c : Char) : Opening :=
  if c.isAlpha then .letter
  else if c = '"' then .quote
  else if c.isDigit || c = '+' || c = '-' then .number
  else if isSpace c then .space
  else .mark c

namespace TokenKind

/-- How the lexemes of a kind start. -/
def opening : TokenKind → Opening
  | .keyword _ | .mdString | .identifier => .letter
  | .string                              => .quote
  | .integer                             => .number
  | .oparen                              => .mark '('
  | .cparen                              => .mark ')'
  | .comma                               => .mark ','
  | .whitespace                          => .space

lemma Matches.ne_nil {k : TokenKind} {l : List Char} (h : k.Matches l) : l ≠ [] := by
  cases k with
  | keyword k => rw [show l = _ from h]; cases k <;> decide
  | mdString | string => obtain ⟨body, -, rfl⟩ := h; exact List.cons_ne_nil _ _
  | integer =>
    obtain ⟨n, h | h | h⟩ := h
    · exact (isDigits_iff.1 h).1
    · exact List.cons_ne_nil _ _
    · exact List.cons_ne_nil _ _
  | identifier => obtain ⟨c, cs, rfl, -⟩ := h; exact List.cons_ne_nil _ _
  | oparen | cparen | comma => rw [show l = _ from h]; exact List.cons_ne_nil _ _
  | whitespace => exact h.1

/-- The first character of a lexeme tells how the lexemes of its kind start. -/
lemma Matches.opening_eq {k : TokenKind} {c : Char} {l : List Char} (h : k.Matches (c :: l)) :
    Opening.ofChar c = k.opening := by
  cases k with
  | keyword k => cases k <;> obtain ⟨rfl, -⟩ := List.cons.inj h <;> rfl
  | mdString | string => obtain ⟨body, -, he⟩ := h; obtain ⟨rfl, -⟩ := List.cons.inj he; rfl
  | integer =>
    obtain ⟨n, h | h | h⟩ := h
    · have hd := isDigits_head h
      have hq : c ≠ '"' := by rintro rfl; exact absurd hd (by decide)
      simp [Opening.ofChar, opening, isAlpha_eq_false_of_isDigit hd, hq, hd]
    · rfl
    · rfl
  | identifier =>
    obtain ⟨a, cs, he, ha, -⟩ := h
    obtain ⟨rfl, -⟩ := List.cons.inj he
    simp [Opening.ofChar, opening, ha]
  | oparen | cparen | comma => obtain ⟨rfl, -⟩ := List.cons.inj h; rfl
  | whitespace =>
    have hc := h.2 c (List.mem_cons_self ..)
    simp only [isSpace, Bool.or_eq_true, beq_iff_eq] at hc
    rcases hc with (rfl | rfl) | rfl <;> rfl

/-- Only white space starts with white space. -/
lemma Matches.eq_whitespace {k : TokenKind} {c : Char} {l : List Char} (h : k.Matches (c :: l))
    (hc : isSpace c = true) : k = .whitespace := by
  have hopen := h.opening_eq
  simp only [isSpace, Bool.or_eq_true, beq_iff_eq] at hc
  rcases hc with (rfl | rfl) | rfl <;> cases k <;> first | rfl | cases hopen

/-- Two rules that apply to the same text have lexemes that start alike. -/
lemma opening_eq_of_cut {k k' : TokenKind} {cs : List Char} {x y : List Char × List Char}
    (h : k.cut cs = some x) (h' : k'.cut cs = some y) : k.opening = k'.opening := by
  obtain ⟨happ, hm, -⟩ := cut_eq_some_iff.1 h
  obtain ⟨happ', hm', -⟩ := cut_eq_some_iff.1 h'
  obtain ⟨c, l, hl⟩ := List.exists_cons_of_ne_nil hm.ne_nil
  obtain ⟨c', l', hl'⟩ := List.exists_cons_of_ne_nil hm'.ne_nil
  rw [hl] at hm happ
  rw [hl'] at hm' happ'
  obtain ⟨rfl, -⟩ := List.cons.inj (happ.symm.trans happ')
  rw [← hm.opening_eq, ← hm'.opening_eq]

/-- At most one keyword starts a text. -/
lemma eq_of_cut_keyword {k k' : Keyword} {cs : List Char} {x y : List Char × List Char}
    (h : (keyword k).cut cs = some x) (h' : (keyword k').cut cs = some y) : k = k' := by
  obtain ⟨happ, hm, -⟩ := cut_eq_some_iff.1 h
  obtain ⟨happ', hm', -⟩ := cut_eq_some_iff.1 h'
  rw [show x.1 = _ from hm] at happ
  rw [show y.1 = _ from hm', happ] at happ'
  cases k <;> cases k' <;> first | rfl | simp [Keyword.name] at happ'

/-- No keyword starts like a Markdown literal. -/
lemma cut_mdString_eq_none {k : Keyword} {cs : List Char} {x : List Char × List Char}
    (h : (keyword k).cut cs = some x) : mdString.cut cs = none := by
  obtain ⟨happ, hm, -⟩ := cut_eq_some_iff.1 h
  rw [show x.1 = _ from hm] at happ
  rw [happ]
  cases k <;> rfl

/-- A keyword and an identifier that start the same text are the same word. -/
lemma eq_of_cut_keyword_identifier {k : Keyword} {cs l l' r r' : List Char}
    (h : (keyword k).cut cs = some (l, r)) (h' : identifier.cut cs = some (l', r')) : l = l' := by
  obtain ⟨happ, rfl, hr⟩ := cut_eq_some_iff.1 h
  obtain ⟨happ', hm', hr'⟩ := cut_eq_some_iff.1 h'
  have hword : ∀ x ∈ l', isWord x = true :=
    fun x hx => isWord_of_isAsciiWord (IsIdentifier.isAsciiWord hm' x hx)
  have hname : ∀ x ∈ k.name.toList, isWord x = true := by
    rw [← List.all_eq_true]
    cases k <;> decide
  have hcut : cutWhile isWord cs = (k.name.toList, r) :=
    cutWhile_eq_iff.2 ⟨happ, hname, head_of_atWordEnd hr⟩
  have hcut' : cutWhile isWord cs = (l', r') :=
    cutWhile_eq_iff.2 ⟨happ', hword, head_of_atWordEnd hr'⟩
  exact (Prod.mk.inj (hcut.symm.trans hcut')).1

/-- An identifier that starts a text like a Markdown literal is the letter in front of the quote. -/
lemma cut_identifier_mdString {cs l r : List Char} {x : List Char × List Char}
    (h : identifier.cut cs = some (l, r)) (h' : mdString.cut cs = some x) :
    l = ['m'] ∧ cutString r ≠ none := by
  obtain ⟨happ, ⟨c, cs', rfl, -, hcs'⟩, -⟩ := cut_eq_some_iff.1 h
  obtain ⟨happ', ⟨body, hbody, hx⟩, -⟩ := cut_eq_some_iff.1 h'
  rw [hx, happ] at happ'
  obtain ⟨rfl, hrest⟩ := List.cons.inj happ'
  cases cs' with
  | nil =>
    refine ⟨rfl, ?_⟩
    have hcut : cutString r = some ('"' :: (body ++ ['"']), x.2) :=
      cutString_eq_some_iff.2 ⟨hrest, body, hbody, rfl⟩
    simp [hcut]
  | cons a cs' =>
    obtain ⟨rfl, -⟩ := List.cons.inj hrest
    have hquote : isAsciiWord '"' = true := hcs' _ (List.mem_cons_self ..)
    exact absurd hquote (by decide)

lemma mem_order (k : TokenKind) : k ∈ order := by
  cases k with
  | keyword k => cases k <;> decide
  | _ => decide

end TokenKind

/-! ### Rules that apply to the same text -/

/-- The first token is found where the rule of the second one applies too. -/
inductive Token.Overrides : Token → Token → Prop
  /-- A keyword is found in place of the identifier of the same spelling. -/
  | keyword (k : Keyword) :
      Overrides ⟨.keyword k, k.name.toList⟩ ⟨.identifier, k.name.toList⟩
  /-- A Markdown literal is found in place of the identifier `m`. -/
  | mdString {l : List Char} (hl : 1 < l.length) : Overrides ⟨.mdString, l⟩ ⟨.identifier, ['m']⟩

namespace Token.Overrides

variable {t t' : Token}

lemma length_le (h : t.Overrides t') : t'.lexeme.length ≤ t.lexeme.length := by
  cases h with
  | keyword k => exact le_rfl
  | mdString hl => exact hl.le

/-- Only identifiers are overridden, by tokens whose rules come before theirs. -/
lemma mem_and_eq (h : t.Overrides t') :
    t.kind ∈ Keyword.all.map TokenKind.keyword ++ [.mdString] ∧ t'.kind = .identifier := by
  cases h with
  | keyword k => exact ⟨by cases k <;> decide, rfl⟩
  | mdString => exact ⟨by simp, rfl⟩

end Token.Overrides

section

variable {cs l l' r r' : List Char} {k k' : TokenKind}

/-- A keyword that is cut off overrides the identifier that could be cut off as well. -/
lemma overrides_of_keyword {k : Keyword} (h : (TokenKind.keyword k).cut cs = some (l, r))
    (h' : TokenKind.identifier.cut cs = some (l', r')) :
    Token.Overrides ⟨.keyword k, l⟩ ⟨.identifier, l'⟩ := by
  obtain ⟨-, rfl, -⟩ := TokenKind.cut_eq_some_iff.1 h
  obtain rfl := TokenKind.eq_of_cut_keyword_identifier h h'
  exact .keyword k

/-- A Markdown literal that is cut off overrides the identifier that could be cut off as well. -/
lemma overrides_of_mdString (h : TokenKind.mdString.cut cs = some (l, r))
    (h' : TokenKind.identifier.cut cs = some (l', r')) :
    Token.Overrides ⟨.mdString, l⟩ ⟨.identifier, l'⟩ := by
  obtain ⟨-, ⟨body, -, rfl⟩, -⟩ := TokenKind.cut_eq_some_iff.1 h
  obtain ⟨rfl, -⟩ := TokenKind.cut_identifier_mdString h' h
  exact .mdString (by simp)

/-- Two rules that apply to the same text have lexemes that start alike, which leaves only keywords,
Markdown literals and identifiers. -/
lemma overrides_or_overrides (hne : k ≠ k') (h : k.cut cs = some (l, r))
    (h' : k'.cut cs = some (l', r')) :
    Token.Overrides ⟨k, l⟩ ⟨k', l'⟩ ∨ Token.Overrides ⟨k', l'⟩ ⟨k, l⟩ := by
  have hopen := TokenKind.opening_eq_of_cut h h'
  -- Keywords, Markdown literals and identifiers start alike. The lexemes of any other two kinds
  -- differ in their first characters.
  cases k with
  | keyword k =>
    cases k' with
    | keyword k' => exact absurd (by rw [TokenKind.eq_of_cut_keyword h h']) hne
    | mdString => exact absurd h' (by simp [TokenKind.cut_mdString_eq_none h])
    | identifier => exact .inl (overrides_of_keyword h h')
    | _ => cases hopen
  | mdString =>
    cases k' with
    | keyword k' => exact absurd h (by simp [TokenKind.cut_mdString_eq_none h'])
    | mdString => exact absurd rfl hne
    | identifier => exact .inl (overrides_of_mdString h h')
    | _ => cases hopen
  | identifier =>
    cases k' with
    | keyword k' => exact .inr (overrides_of_keyword h' h)
    | mdString => exact .inr (overrides_of_mdString h' h)
    | identifier => exact absurd rfl hne
    | _ => cases hopen
  | _ => cases k' <;> first | exact absurd rfl hne | cases hopen

end

/-! ### The first token -/

/-- A token that the lexer can produce: its lexeme is one of its kind, and no identifier is spelled
like a keyword. -/
structure Token.IsLexeme (t : Token) : Prop where
  matchesKind : t.kind.Matches t.lexeme
  ne_keyword : t.kind = .identifier → ∀ k : Keyword, t.lexeme ≠ k.name.toList

/-- The token may end in front of the text. The identifier `m` may not end in front of a string
literal, since the two together are a Markdown literal. -/
structure Token.EndsBefore (t : Token) (r : List Char) : Prop where
  stops : t.kind.StopsBefore r
  not_mdString : t.kind = .identifier → t.lexeme = ['m'] → cutString r = none

/-- Where a token is overridden, the lexer does not end it. -/
lemma Token.Overrides.not_endsBefore {t t' : Token} {cs r r' : List Char} (ho : t.Overrides t')
    (hcut : t.kind.cut cs = some (t.lexeme, r)) (hcut' : t'.kind.cut cs = some (t'.lexeme, r'))
    (h' : t'.IsLexeme) : ¬ t'.EndsBefore r' := by
  intro hr'
  cases ho with
  | keyword k => exact h'.ne_keyword rfl k rfl
  | mdString _ =>
    obtain ⟨-, hne⟩ := TokenKind.cut_identifier_mdString hcut' hcut
    exact hne (hr'.not_mdString rfl rfl)

/-- Two tokens that start the same text, each as the lexer may end it, are of one kind. -/
lemma Token.kind_eq {t t' : Token} {r r' : List Char} (happ : t.lexeme ++ r = t'.lexeme ++ r')
    (h : t.IsLexeme) (hr : t.EndsBefore r) (h' : t'.IsLexeme) (hr' : t'.EndsBefore r') :
    t.kind = t'.kind := by
  have hcut : t.kind.cut (t.lexeme ++ r) = some (t.lexeme, r) :=
    TokenKind.cut_eq_some_iff.2 ⟨rfl, h.matchesKind, hr.stops⟩
  have hcut' : t'.kind.cut (t.lexeme ++ r) = some (t'.lexeme, r') :=
    TokenKind.cut_eq_some_iff.2 ⟨happ, h'.matchesKind, hr'.stops⟩
  by_contra hne
  rcases overrides_or_overrides hne hcut hcut' with ho | ho
  · exact ho.not_endsBefore hcut hcut' h' hr'
  · exact ho.not_endsBefore hcut' hcut h hr

/-- The rules that come before the one for identifiers: an identifier is cut off only where none of
them applies. -/
lemma cut_eq_none_of_nextToken_identifier {cs l r : List Char}
    (h : nextToken cs = some (⟨.identifier, l⟩, r)) :
    ∀ k ∈ Keyword.all.map TokenKind.keyword ++ [.mdString], k.cut cs = none := by
  have horder : TokenKind.order = (Keyword.all.map .keyword ++ [.mdString]) ++
    [.string, .integer, .identifier, .oparen, .cparen, .comma, .whitespace] := rfl
  rw [nextToken, horder, List.findSome?_append, Option.or_eq_some_iff] at h
  rcases h with h | ⟨h, -⟩
  · obtain ⟨k, hk, he⟩ := List.exists_of_findSome?_eq_some h
    obtain ⟨x, -, hx⟩ := Option.map_eq_some_iff.1 he
    obtain ⟨rfl, -⟩ := Token.mk.inj (Prod.mk.inj hx).1
    exact absurd hk (by decide)
  · intro k hk
    simpa using List.findSome?_eq_none_iff.1 h k hk

/-- The first token of a text is a lexeme, and it may end where the rest starts. -/
lemma isLexeme_of_nextToken {cs r : List Char} {t : Token} (h : nextToken cs = some (t, r)) :
    cs = t.lexeme ++ r ∧ t.IsLexeme ∧ t.EndsBefore r := by
  obtain ⟨k, l⟩ := t
  obtain ⟨happ, hm, hs⟩ := TokenKind.cut_eq_some_iff.1 (nextToken_cut h)
  simp only at happ hm hs
  refine ⟨happ, ⟨hm, ?_⟩, ⟨hs, ?_⟩⟩
  · rintro rfl k hl
    have hnone := cut_eq_none_of_nextToken_identifier h (.keyword k) (by cases k <;> decide)
    have hcut : (TokenKind.keyword k).cut cs = some (l, r) :=
      TokenKind.cut_eq_some_iff.2 ⟨happ, hl, hs⟩
    exact absurd hcut (by simp [hnone])
  · rintro rfl rfl
    have hnone := cut_eq_none_of_nextToken_identifier h .mdString (by decide)
    rw [happ, TokenKind.cut, List.singleton_append, cutMdString_eq] at hnone
    exact Option.map_eq_none_iff.1 hnone

/-- The first token of a text is the one lexeme at its front that may end there. -/
theorem nextToken_eq_some_iff {cs r : List Char} {t : Token} :
    nextToken cs = some (t, r) ↔ cs = t.lexeme ++ r ∧ t.IsLexeme ∧ t.EndsBefore r := by
  refine ⟨isLexeme_of_nextToken, ?_⟩
  rintro ⟨rfl, ht, hr⟩
  have hcut : t.kind.cut (t.lexeme ++ r) = some (t.lexeme, r) :=
    TokenKind.cut_eq_some_iff.2 ⟨rfl, ht.matchesKind, hr.stops⟩
  -- The rule of `t` applies, so that some token is found. It can only be `t`, since it may end
  -- where it does.
  obtain ⟨⟨t', r'⟩, h⟩ : ∃ x, nextToken (t.lexeme ++ r) = some x := by
    rw [← Option.isSome_iff_exists, nextToken, List.findSome?_isSome_iff]
    exact ⟨t.kind, TokenKind.mem_order _, by simp [hcut]⟩
  obtain ⟨happ, ht', hr'⟩ := isLexeme_of_nextToken h
  have hkind := Token.kind_eq happ ht hr ht' hr'
  have hcut' := nextToken_cut h
  rw [← hkind, hcut] at hcut'
  obtain ⟨hl, rfl⟩ := Prod.mk.inj (Option.some.inj hcut')
  obtain ⟨k, l⟩ := t
  obtain ⟨k', l'⟩ := t'
  simp only at hkind hl
  rw [h, hkind, hl]

/-! ### Neighbours -/

/-- The token may stand directly in front of another one: its lexeme may end there, and the two are
not a Markdown literal. -/
structure Token.MayTouch (t t' : Token) : Prop where
  stops : t.kind.StopsBefore t'.lexeme
  not_mdString : t.kind = .identifier → t.lexeme = ['m'] → t'.kind ≠ .string

/-- Tokens that the lexer can produce, each of which may touch the next. -/
structure Lexed (ts : List Token) : Prop where
  isLexeme : ∀ t ∈ ts, t.IsLexeme
  mayTouch : ts.IsChain Token.MayTouch

lemma TokenKind.stopsBefore_nil (k : TokenKind) : k.StopsBefore [] := by
  cases k <;> simp [StopsBefore, atWordEnd]

/-- Whether a lexeme may end depends on the next character only. -/
lemma TokenKind.stopsBefore_append {k : TokenKind} {l : List Char} (h : l ≠ []) (r : List Char) :
    k.StopsBefore (l ++ r) ↔ k.StopsBefore l := by
  obtain ⟨c, l, rfl⟩ := List.exists_cons_of_ne_nil h
  cases k <;> simp [StopsBefore, atWordEnd]

lemma Token.endsBefore_nil (t : Token) : t.EndsBefore [] :=
  ⟨t.kind.stopsBefore_nil, fun _ _ => rfl⟩

/-- A text that starts with a token starts with a string literal exactly when that token is one. -/
lemma cutString_append_eq_none_iff {t : Token} {r : List Char} (ht : t.IsLexeme)
    (hr : t.EndsBefore r) : cutString (t.lexeme ++ r) = none ↔ t.kind ≠ .string := by
  constructor
  · rintro h hk
    have hm := ht.matchesKind
    rw [hk] at hm
    have hcut : cutString (t.lexeme ++ r) = some (t.lexeme, r) := cutString_eq_some_iff.2 ⟨rfl, hm⟩
    rw [h] at hcut
    cases hcut
  · -- No other lexeme starts with a quote.
    intro hk
    by_contra hne
    obtain ⟨x, hx⟩ := Option.ne_none_iff_exists'.1 hne
    have hcut : t.kind.cut (t.lexeme ++ r) = some (t.lexeme, r) :=
      TokenKind.cut_eq_some_iff.2 ⟨rfl, ht.matchesKind, hr.stops⟩
    have hstring : TokenKind.string.cut (t.lexeme ++ r) = some x := hx
    have hopen := TokenKind.opening_eq_of_cut hcut hstring
    obtain ⟨k, l⟩ := t
    cases k <;> first | exact hk rfl | cases hopen

/-- In front of a text that starts with a token, only that token matters. -/
lemma Token.endsBefore_append_iff {t t' : Token} {r : List Char} (ht' : t'.IsLexeme)
    (hr : t'.EndsBefore r) : t.EndsBefore (t'.lexeme ++ r) ↔ t.MayTouch t' := by
  have hstops := TokenKind.stopsBefore_append (k := t.kind) ht'.matchesKind.ne_nil r
  have hcut := cutString_append_eq_none_iff ht' hr
  constructor
  · intro h
    exact ⟨hstops.1 h.stops, fun hk hl => hcut.1 (h.not_mdString hk hl)⟩
  · intro h
    exact ⟨hstops.2 h.stops, fun hk hl => hcut.2 (h.not_mdString hk hl)⟩

/-! ### All tokens -/

@[simp] lemma Token.concat_nil : Token.concat [] = [] := rfl

@[simp] lemma Token.concat_cons (t : Token) (ts : List Token) :
    Token.concat (t :: ts) = t.lexeme ++ Token.concat ts := rfl

lemma lexed_nil : Lexed [] := ⟨by simp, .nil⟩

lemma lexed_cons {t : Token} {ts : List Token} :
    Lexed (t :: ts) ↔ t.IsLexeme ∧ (∀ t' ∈ ts.head?, t.MayTouch t') ∧ Lexed ts := by
  constructor
  · rintro ⟨hl, hc⟩
    obtain ⟨hhead, htail⟩ := List.isChain_cons.1 hc
    exact ⟨hl t (List.mem_cons_self ..), hhead, fun x hx => hl x (List.mem_cons_of_mem _ hx), htail⟩
  · rintro ⟨ht, hhead, hl, hc⟩
    exact ⟨List.forall_mem_cons.2 ⟨ht, hl⟩, List.isChain_cons.2 ⟨hhead, hc⟩⟩

/-- In a sequence of tokens that the lexer produces, each may end in front of the following ones. -/
lemma Token.endsBefore_concat_iff {t : Token} {ts : List Token} (h : Lexed ts) :
    t.EndsBefore (Token.concat ts) ↔ ∀ t' ∈ ts.head?, t.MayTouch t' := by
  induction ts generalizing t with
  | nil => simp [Token.endsBefore_nil]
  | cons t' ts ih =>
    obtain ⟨ht', hhead, hts⟩ := lexed_cons.1 h
    rw [Token.concat_cons, Token.endsBefore_append_iff ht' ((ih hts).2 hhead)]
    simp

lemma scanFrom_nil (offset : Nat) : scanFrom offset [] = .ok [] := by
  rw [scanFrom]

lemma scanFrom_eq_ok_nil_iff {offset : Nat} {cs : List Char} :
    scanFrom offset cs = .ok [] ↔ cs = [] := by
  constructor
  · intro h
    cases cs with
    | nil => rfl
    | cons c cs =>
      rw [scanFrom] at h
      split at h
      · cases h
      · next t r _ =>
        cases hr : scanFrom (offset + byteLength t.lexeme) r <;> simp [hr, Except.map] at h
  · rintro rfl
    exact scanFrom_nil offset

/-- A text has a first token if a rule applies to it, and the others are those of what follows. -/
lemma scanFrom_eq_ok_cons_iff {offset : Nat} {cs : List Char} {t : Token} {ts : List Token} :
    scanFrom offset cs = .ok (t :: ts) ↔
      ∃ r, nextToken cs = some (t, r) ∧ scanFrom (offset + byteLength t.lexeme) r = .ok ts := by
  cases cs with
  | nil =>
    have hnext : nextToken [] = none := by decide
    simp [scanFrom_nil, hnext]
  | cons c cs =>
    rw [scanFrom]
    split
    · next hnext => simp [hnext]
    · next t' r hnext =>
      have hmap : ∀ x : Except UndefinedToken (List Token),
          x.map (t' :: ·) = .ok (t :: ts) ↔ t' = t ∧ x = .ok ts := by
        intro x
        cases x <;> simp [Except.map]
      simp only [hmap, hnext, Option.some.injEq, Prod.mk.injEq]
      constructor
      · rintro ⟨rfl, hr⟩
        exact ⟨r, ⟨rfl, rfl⟩, hr⟩
      · rintro ⟨_, ⟨rfl, rfl⟩, hr⟩
        exact ⟨rfl, hr⟩

/-- The tokens of a text are the sequence that makes up the text and that the lexer can produce. -/
theorem scanFrom_eq_ok_iff {offset : Nat} {cs : List Char} {ts : List Token} :
    scanFrom offset cs = .ok ts ↔ Token.concat ts = cs ∧ Lexed ts := by
  induction ts generalizing offset cs with
  | nil =>
    rw [scanFrom_eq_ok_nil_iff]
    exact ⟨fun h => ⟨h.symm, lexed_nil⟩, fun h => h.1.symm⟩
  | cons t ts ih =>
    simp only [scanFrom_eq_ok_cons_iff, nextToken_eq_some_iff, ih, Token.concat_cons, lexed_cons]
    constructor
    · rintro ⟨r, ⟨rfl, ht, hr⟩, rfl, hts⟩
      exact ⟨rfl, ht, (Token.endsBefore_concat_iff hts).1 hr, hts⟩
    · rintro ⟨rfl, ht, hhead, hts⟩
      exact ⟨_, ⟨rfl, ht, (Token.endsBefore_concat_iff hts).2 hhead⟩, rfl, hts⟩

/-- The tokens of a text make it up, and each may touch the next. No other row of tokens does so. -/
theorem tokenize_eq_ok_iff {cs : List Char} {ts : List Token} :
    tokenize cs = .ok ts ↔ Token.concat ts = cs ∧ Lexed ts := by
  rw [← @scanFrom_eq_ok_iff 0, tokenize, scan]
  cases scanFrom 0 cs <;> simp [Except.mapError]

end Adventure.Action
