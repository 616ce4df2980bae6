import Adventure.Proofs.Action.Pattern
import Adventure.Proofs.Action.Scanning

/-!
# The longest match

The rules of the lexer are tried in a fixed order and the first that applies wins. No other rule
would have cut off more: two rules apply to the same text only if one of them is the rule of
identifiers and the other one comes before it. Words are never cut into pieces.

* `eq_or_overrides_of_nextToken` : the rules that apply besides the first one.
* `TokenKind.cut_eq_some_iff_word` : a word is cut off as a whole or not at all.
* `nextToken_longestMatch` : both together, for what the patterns of the rules match.
-/

namespace Adventure.Action

open Text Number

/-! ### Rules that apply to the same text -/

section

variable {cs l l' r r' : List Char} {k k' : TokenKind}

/-- A rule that applies is the one whose token is found, or that token overrides its own. -/
lemma eq_or_overrides_of_nextToken {t : Token} (hnext : nextToken cs = some (t, r))
    (h : k.cut cs = some (l, r')) : (t, r) = (⟨k, l⟩, r') ∨ t.Overrides ⟨k, l⟩ := by
  obtain ⟨k₀, l₀⟩ := t
  have hcut : k₀.cut cs = some (l₀, r) := nextToken_cut hnext
  by_cases hk : k₀ = k
  · subst hk
    rw [hcut] at h
    obtain ⟨rfl, rfl⟩ := Prod.mk.inj (Option.some.inj h)
    exact .inl rfl
  · rcases overrides_or_overrides hk hcut h with ho | ho
    · exact .inr ho
    · -- An identifier is found only where no rule applies that could override it.
      obtain ⟨hmem, hidentifier⟩ := ho.mem_and_eq
      obtain rfl : k₀ = .identifier := hidentifier
      exact absurd h (by simp [cut_eq_none_of_nextToken_identifier hnext k hmem])

/-- The token that overrides another one is the one that is found. -/
lemma Token.Overrides.nextToken_eq (ho : Token.Overrides ⟨k, l⟩ ⟨k', l'⟩)
    (h : k.cut cs = some (l, r)) : nextToken cs = some (⟨k, l⟩, r) := by
  cases hnext : nextToken cs with
  | none => exact absurd h (by simp [nextToken_eq_none_iff.1 hnext k])
  | some x =>
    rcases eq_or_overrides_of_nextToken hnext h with heq | ho'
    · exact congrArg some heq
    · have hmem := ho.mem_and_eq.1
      rw [show k = .identifier from ho'.mem_and_eq.2] at hmem
      exact absurd hmem (by simp)

end

lemma Keyword.isIdentifier_name (k : Keyword) : IsIdentifier k.name.toList := by
  cases k <;> exact ⟨_, _, rfl, by decide, List.all_eq_true.1 (by decide)⟩

/-- Where a token overrides another one, the rule of that one applies as well. -/
lemma Token.Overrides.exists_cut {t t' : Token} {cs r : List Char} (ho : t.Overrides t')
    (h : t.kind.cut cs = some (t.lexeme, r)) : ∃ r', t'.kind.cut cs = some (t'.lexeme, r') := by
  obtain ⟨rfl, hm, hs⟩ := TokenKind.cut_eq_some_iff.1 h
  cases ho with
  | keyword k => exact ⟨r, TokenKind.cut_eq_some_iff.2 ⟨rfl, k.isIdentifier_name, hs⟩⟩
  | mdString hl =>
    obtain ⟨body, -, rfl⟩ := hm
    have hquote : atWordEnd ('"' :: (body ++ ['"'] ++ r)) = true := rfl
    exact ⟨_, TokenKind.cut_eq_some_iff.2 ⟨rfl, ⟨'m', [], rfl, by decide, by simp⟩, hquote⟩⟩

/-! ### Words -/

namespace TokenKind

/-- The kinds whose lexemes are words, in front of which a sign may stand. -/
def isWordKind : TokenKind → Bool
  | .keyword _ | .integer | .identifier => true
  | _                                   => false

/-- The sign at the front of a text, which only integers have. -/
def sign : TokenKind → List Char → List Char
  | .integer, cs => (cs.head?.filter fun c => c == '+' || c == '-').toList
  | _,        _  => []

/-- All word characters at the front of a text, behind the sign. -/
def run (k : TokenKind) (cs : List Char) : List Char :=
  (cs.drop (k.sign cs).length).takeWhile isWord

/-- The characters of the words of a kind. -/
def IsWordChar : TokenKind → Char → Prop
  | .keyword k,  c => c ∈ k.name.toList
  | .integer,    c => c.isDigit = true
  | .identifier, c => isAsciiWord c = true
  | _,           _ => False

variable {k : TokenKind} {cs l r : List Char}

lemma IsWordChar.isAsciiWord {c : Char} (h : k.IsWordChar c) : isAsciiWord c = true := by
  cases k with
  | keyword k => exact k.isIdentifier_name.isAsciiWord c h
  | integer => exact isAsciiWord_of_isDigit h
  | identifier => exact h
  | _ => cases h

lemma sign_append (hl : l ≠ []) (r : List Char) : k.sign (l ++ r) = k.sign l := by
  obtain ⟨c, l, rfl⟩ := List.exists_cons_of_ne_nil hl
  cases k <;> rfl

lemma sign_of_isDigits (h : isDigits l = true) : TokenKind.integer.sign l = [] := by
  obtain ⟨d, ds, rfl⟩ := List.exists_cons_of_ne_nil (isDigits_iff.1 h).1
  have hd : ((d == '+') || (d == '-')) = false := by
    rw [Bool.or_eq_false_iff, beq_eq_false_iff_ne, beq_eq_false_iff_ne]
    constructor <;> rintro rfl <;> exact absurd (isDigits_head h) (by decide)
  simp only [sign, List.head?_cons, Option.filter_some, hd]
  rfl

/-- A word is its sign and characters of its kind. -/
lemma Matches.exists_word (hk : k.isWordKind = true) (h : k.Matches l) :
    ∃ w, l = k.sign l ++ w ∧ ∀ c ∈ w, k.IsWordChar c := by
  cases k with
  | keyword k => exact ⟨l, rfl, by rw [show l = _ from h]; exact fun c hc => hc⟩
  | identifier => exact ⟨l, rfl, IsIdentifier.isAsciiWord h⟩
  | integer =>
    obtain ⟨n, h | h | h⟩ := h
    · exact ⟨l, by rw [sign_of_isDigits h]; rfl, (isDigits_iff.1 h).2⟩
    · exact ⟨_, rfl, (isDigits_iff.1 h).2⟩
    · exact ⟨_, rfl, (isDigits_iff.1 h).2⟩
  | _ => cases hk

lemma stopsBefore_iff (hk : k.isWordKind = true) : k.StopsBefore r ↔ atWordEnd r = true := by
  cases k <;> first | exact Iff.rfl | cases hk

/-- A word is a whole run of word characters, if it ends where a word may end. -/
lemma takeWhile_append_of_atWordEnd {w r : List Char} (hw : ∀ c ∈ w, isWord c = true)
    (hr : atWordEnd r = true) : (w ++ r).takeWhile isWord = w := by
  rw [List.takeWhile_append_of_pos hw]
  cases r with
  | nil => simp
  | cons c r =>
    have hc := head_of_atWordEnd hr c rfl
    simp [hc]

lemma atWordEnd_dropWhile (cs : List Char) : atWordEnd (cs.dropWhile isWord) = true := by
  have hnot := List.head?_dropWhile_not isWord cs
  cases h : cs.dropWhile isWord with
  | nil => rfl
  | cons c r => simpa [h, atWordEnd] using hnot

/-- The word that is cut off is the whole run behind the sign. -/
lemma eq_sign_append_run (hk : k.isWordKind = true) (h : k.cut cs = some (l, r)) :
    l = k.sign cs ++ k.run cs ∧ ∀ c ∈ k.run cs, k.IsWordChar c := by
  obtain ⟨rfl, hm, hs⟩ := cut_eq_some_iff.1 h
  obtain ⟨w, hw, hchars⟩ := hm.exists_word hk
  have happ : l ++ r = k.sign l ++ (w ++ r) := by rw [← List.append_assoc, ← hw]
  have hrun : k.run (l ++ r) = w := by
    rw [run, sign_append hm.ne_nil, happ, List.drop_left]
    exact takeWhile_append_of_atWordEnd
      (fun c hc => isWord_of_isAsciiWord (hchars c hc).isAsciiWord) ((stopsBefore_iff hk).1 hs)
  rw [sign_append hm.ne_nil, hrun]
  exact ⟨hw, hchars⟩

lemma sign_append_drop (k : TokenKind) (cs : List Char) :
    k.sign cs ++ cs.drop (k.sign cs).length = cs := by
  cases k with
  | integer =>
    cases cs with
    | nil => rfl
    | cons c cs =>
      simp only [sign, List.head?_cons, Option.filter_some]
      split_ifs <;> rfl
  | _ => rfl

/-- A text consists of a sign, a run of word characters, and what follows. -/
lemma sign_append_run_append (k : TokenKind) (cs : List Char) :
    k.sign cs ++ k.run cs ++ (cs.drop (k.sign cs).length).dropWhile isWord = cs := by
  rw [run, List.append_assoc, List.takeWhile_append_dropWhile, sign_append_drop]

/-- A word is cut off as a whole or not at all. -/
theorem cut_eq_some_iff_word (hk : k.isWordKind = true) :
    k.cut cs = some (l, r) ↔ cs = l ++ r ∧ l = k.sign cs ++ k.run cs ∧ k.Matches l := by
  constructor
  · intro h
    obtain ⟨happ, hm, -⟩ := cut_eq_some_iff.1 h
    exact ⟨happ, (eq_sign_append_run hk h).1, hm⟩
  · rintro ⟨happ, hl, hm⟩
    have hr : r = (cs.drop (k.sign cs).length).dropWhile isWord := by
      have hcs := happ.symm.trans (sign_append_run_append k cs).symm
      rw [← hl] at hcs
      exact List.append_cancel_left hcs
    refine cut_eq_some_iff.2 ⟨happ, hm, (stopsBefore_iff hk).2 ?_⟩
    rw [hr]
    exact atWordEnd_dropWhile _

end TokenKind

/-! ### What the patterns match -/

/-- What is found at the front of a text by taking the first rule that applies, compared with what
the pattern of every rule matches there. -/
structure LongestMatch (cs : List Char) : Prop where
  /-- A token is found where any pattern matches. -/
  eq_none_iff : nextToken cs = none ↔ ∀ k : TokenKind, k.pattern.first? cs = none
  /-- What is found is a match of the pattern of its kind. -/
  first?_eq {t : Token} {r : List Char} (h : nextToken cs = some (t, r)) :
    t.kind.pattern.first? cs = some (t.lexeme, r)
  /-- No pattern matches more. -/
  length_le {t : Token} {k : TokenKind} {l r r' : List Char} (h : nextToken cs = some (t, r))
    (h' : k.pattern.first? cs = some (l, r')) : l.length ≤ t.lexeme.length
  /-- Of two patterns that both match, one is that of a token that overrides the other. -/
  overrides {k k' : TokenKind} {l l' r r' : List Char} (hne : k ≠ k')
    (h : k.pattern.first? cs = some (l, r)) (h' : k'.pattern.first? cs = some (l', r')) :
    Token.Overrides ⟨k, l⟩ ⟨k', l'⟩ ∧ nextToken cs = some (⟨k, l⟩, r) ∨
      Token.Overrides ⟨k', l'⟩ ⟨k, l⟩ ∧ nextToken cs = some (⟨k', l'⟩, r')
  /-- Where the token that overrides another one matches, the other one matches as well. -/
  exists_first? {t t' : Token} {r : List Char} (ho : t.Overrides t')
    (h : t.kind.pattern.first? cs = some (t.lexeme, r)) :
    ∃ r', t'.kind.pattern.first? cs = some (t'.lexeme, r')
  /-- A word is matched as a whole. -/
  first?_eq_some_iff {k : TokenKind} {l r : List Char} (hk : k.isWordKind = true) :
    k.pattern.first? cs = some (l, r) ↔ cs = l ++ r ∧ l = k.sign cs ++ k.run cs ∧ k.Matches l
  /-- Nothing is matched where a character of another class belongs to the word. -/
  first?_eq_none {k : TokenKind} {c : Char} (hk : k.isWordKind = true) (hc : c ∈ k.run cs)
    (hclass : ¬k.IsWordChar c) : k.pattern.first? cs = none
  /-- All letters, marks and digits beyond ASCII are such characters. -/
  first?_eq_none_of_le {k : TokenKind} {c : Char} (hk : k.isWordKind = true) (hc : c ∈ k.run cs)
    (hle : 128 ≤ c.toNat) : k.pattern.first? cs = none

/-- The pattern of a kind of words does not match a part of a run: a character of another class in
the run rules it out. -/
lemma first?_eq_none_of_mem_run {k : TokenKind} {c : Char} {cs : List Char}
    (hk : k.isWordKind = true) (hc : c ∈ k.run cs) (hclass : ¬k.IsWordChar c) :
    k.pattern.first? cs = none := by
  rw [TokenKind.first?_pattern, Option.eq_none_iff_forall_ne_some]
  rintro ⟨l, r⟩ h
  exact hclass ((TokenKind.eq_sign_append_run hk h).2 c hc)

/-- The order of the rules finds the longest match. -/
theorem nextToken_longestMatch (cs : List Char) : LongestMatch cs where
  eq_none_iff := by simpa only [TokenKind.first?_pattern] using nextToken_eq_none_iff
  first?_eq h := by
    rw [TokenKind.first?_pattern]
    exact nextToken_cut h
  length_le h h' := by
    rw [TokenKind.first?_pattern] at h'
    rcases eq_or_overrides_of_nextToken h h' with heq | ho
    · obtain ⟨rfl, rfl⟩ := Prod.mk.inj heq
      exact le_rfl
    · exact ho.length_le
  overrides hne h h' := by
    rw [TokenKind.first?_pattern] at h h'
    rcases overrides_or_overrides hne h h' with ho | ho
    · exact .inl ⟨ho, ho.nextToken_eq h⟩
    · exact .inr ⟨ho, ho.nextToken_eq h'⟩
  exists_first? ho h := by
    simp only [TokenKind.first?_pattern] at h ⊢
    exact ho.exists_cut h
  first?_eq_some_iff hk := by
    rw [TokenKind.first?_pattern]
    exact TokenKind.cut_eq_some_iff_word hk
  first?_eq_none hk hc hclass := first?_eq_none_of_mem_run hk hc hclass
  -- The characters of words are ASCII, so a character beyond it is in no class.
  first?_eq_none_of_le hk hc hle := first?_eq_none_of_mem_run hk hc fun hclass =>
    absurd (toNat_lt_of_isAsciiWord hclass.isAsciiWord) (Nat.not_lt.2 hle)

/-- In front of a Markdown literal the identifier `m` is shorter, and a keyword that an accent
follows is neither a keyword nor an identifier. -/
theorem nextToken_longestMatch_markdown :
    nextToken ['m', '"', 'x', '"'] = some (⟨.mdString, ['m', '"', 'x', '"']⟩, []) ∧
      TokenKind.identifier.pattern.first? ['m', '"', 'x', '"'] = some (['m'], ['"', 'x', '"']) ∧
      ['m'].length ≤ ['m', '"', 'x', '"'].length ∧
      'é' ∈ (TokenKind.keyword .add).run ['a', 'd', 'd', 'é'] ∧
      (TokenKind.keyword .add).pattern.first? ['a', 'd', 'd', 'é'] = none := by
  have hnext : nextToken ['m', '"', 'x', '"'] =
      some (⟨.mdString, ['m', '"', 'x', '"']⟩, []) := by decide
  have hfirst : TokenKind.identifier.pattern.first? ['m', '"', 'x', '"'] =
      some (['m'], ['"', 'x', '"']) := by
    rw [TokenKind.first?_pattern]
    decide
  have hmem : 'é' ∈ (TokenKind.keyword .add).run ['a', 'd', 'd', 'é'] := by decide +kernel
  exact ⟨hnext, hfirst, (nextToken_longestMatch _).length_le hnext hfirst, hmem,
    (nextToken_longestMatch _).first?_eq_none_of_le rfl hmem (by decide)⟩

end Adventure.Action
