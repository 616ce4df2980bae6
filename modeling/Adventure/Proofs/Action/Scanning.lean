import Adventure.Proofs.Action.Tokens

/-!
# Runs of the lexer

The lexer cuts one token after the other off a text until the text ends or no rule applies. Nothing
of the text is lost on the way. A token that may end in front of another one may also end where the
text ends, so that a text can be taken apart at every boundary of two tokens.

* `exists_scans` : every run of the lexer ends.
* `scan_lossless` : what the lexer returns for a text.
-/

namespace Adventure.Action

/-- The lexer cuts the tokens off a text, one after the other, and `r` is left. -/
inductive Scans : List Char → List Token → List Char → Prop
  | nil (cs : List Char) : Scans cs [] cs
  | cons {cs r' r : List Char} {t : Token} {ts : List Token} (h : nextToken cs = some (t, r'))
      (hr : Scans r' ts r) : Scans cs (t :: ts) r

namespace Scans

variable {cs r : List Char} {ts : List Token}

lemma concat_append (h : Scans cs ts r) : Token.concat ts ++ r = cs := by
  induction h with
  | nil => rfl
  | cons h _ ih =>
    obtain ⟨rfl, -, -⟩ := nextToken_eq_some_iff.1 h
    rw [Token.concat_cons, List.append_assoc, ih]

/-- Whatever is left, the tokens are ones that the lexer can produce by themselves. -/
lemma lexed (h : Scans cs ts r) : Lexed ts := by
  induction h with
  | nil => exact lexed_nil
  | cons h hr ih =>
    obtain ⟨-, ht, hend⟩ := nextToken_eq_some_iff.1 h
    refine lexed_cons.2 ⟨ht, ?_, ih⟩
    intro t' ht'
    cases hr with
    | nil => cases ht'
    | cons h' _ =>
      obtain rfl := Option.some.inj ht'
      obtain ⟨rfl, hl', hend'⟩ := nextToken_eq_some_iff.1 h'
      exact (Token.endsBefore_append_iff hl' hend').1 hend

end Scans

/-! ### Every run ends -/

/-- The tokens of a text are its first token and the tokens of what follows. -/
lemma scanFrom_of_nextToken {offset : Nat} {cs r : List Char} {t : Token}
    (h : nextToken cs = some (t, r)) :
    scanFrom offset cs = (scanFrom (offset + byteLength t.lexeme) r).map (t :: ·) := by
  cases cs with
  | nil =>
    have hnone : nextToken [] = none := by decide
    simp [hnone] at h
  | cons c cs =>
    rw [scanFrom]
    split
    · next hnone => simp [hnone] at h
    · next t' r' hsome =>
      rw [hsome] at h
      obtain ⟨rfl, rfl⟩ := Prod.mk.inj (Option.some.inj h)
      rfl

/-- A text to which no rule applies has no tokens, and the failure tells where it starts. -/
lemma scanFrom_of_nextToken_eq_none {offset : Nat} {cs : List Char} (hne : cs ≠ [])
    (h : nextToken cs = none) : scanFrom offset cs = .error ⟨cs, offset⟩ := by
  obtain ⟨c, cs, rfl⟩ := List.exists_cons_of_ne_nil hne
  rw [scanFrom]
  split
  · rfl
  · next hsome => simp [hsome] at h

/-- A run of the lexer ends where the text ends or where no rule applies. -/
lemma exists_scans (cs : List Char) :
    ∃ ts r, Scans cs ts r ∧ (r ≠ [] → nextToken r = none) := by
  induction hn : cs.length using Nat.strong_induction_on generalizing cs with
  | _ n ih =>
    subst hn
    cases hnext : nextToken cs with
    | none => exact ⟨[], cs, .nil cs, fun _ => hnext⟩
    | some x =>
      obtain ⟨t, r'⟩ := x
      have hlt : r'.length < cs.length := TokenKind.cut_length (nextToken_cut hnext)
      obtain ⟨ts, r, hscans, hr⟩ := ih _ hlt r' rfl
      exact ⟨t :: ts, r, .cons hnext hscans, hr⟩

/-! ### What a run returns -/

lemma byteLength_append (cs ds : List Char) :
    byteLength (cs ++ ds) = byteLength cs + byteLength ds := by
  rw [byteLength, String.ofList_append, String.utf8ByteSize_append]
  rfl

/-- Tokens that were cut off come before those of the remainder, however that turns out. -/
lemma Scans.scanFrom_eq {cs r : List Char} {ts : List Token} (h : Scans cs ts r) (offset : Nat) :
    scanFrom offset cs = (scanFrom (offset + byteLength (Token.concat ts)) r).map (ts ++ ·) := by
  -- The offset grows with every token, so the induction needs all of them.
  induction h generalizing offset with
  | nil cs =>
    show _ = (scanFrom (offset + 0) cs).map id
    cases scanFrom offset cs <;> simp [Except.map]
  | @cons cs r' r t ts h _ ih =>
    rw [scanFrom_of_nextToken h, ih, Token.concat_cons, byteLength_append, Nat.add_assoc]
    cases scanFrom (offset + (byteLength t.lexeme + byteLength (Token.concat ts))) r <;> rfl

lemma Lexed.of_append {ts us : List Token} (h : Lexed (ts ++ us)) : Lexed ts ∧ Lexed us := by
  obtain ⟨hl, hc⟩ := h
  obtain ⟨hts, hus, -⟩ := List.isChain_append.1 hc
  exact ⟨⟨fun t ht => hl t (List.mem_append_left _ ht), hts⟩,
    ⟨fun t ht => hl t (List.mem_append_right _ ht), hus⟩⟩

lemma Lexed.scan_concat {ts : List Token} (h : Lexed ts) : scan (Token.concat ts) = .ok ts :=
  scanFrom_eq_ok_iff.2 ⟨rfl, h⟩

/-- There are at most as many tokens as characters. -/
lemma Lexed.length_le {ts : List Token} (h : Lexed ts) :
    ts.length ≤ (Token.concat ts).length := by
  induction ts with
  | nil => exact Nat.zero_le _
  | cons t ts ih =>
    obtain ⟨ht, -, hts⟩ := lexed_cons.1 h
    have hpos := List.length_pos_iff.2 ht.matchesKind.ne_nil
    have hle := ih hts
    rw [Token.concat_cons, List.length_append, List.length_cons]
    omega

lemma nextToken_eq_none_iff {cs : List Char} :
    nextToken cs = none ↔ ∀ k : TokenKind, k.cut cs = none := by
  simp only [nextToken, List.findSome?_eq_none_iff, Option.map_eq_none_iff]
  exact ⟨fun h k => h k (TokenKind.mem_order k), fun h k _ => h k⟩

/-- The lexer returns an answer for every text, after no more tokens than the text has characters.
Either the tokens make up the text, none of them empty, and the two texts on both sides of each
boundary of two tokens are cut into the tokens on that side; or a front part of the text is cut into
tokens, no rule applies to the rest, which is not empty, and the offset is the number of bytes of
the front part. -/
theorem scan_lossless (cs : List Char) :
    (∃ ts, scan cs = .ok ts ∧ ts.length ≤ cs.length ∧ (∀ t ∈ ts, t.lexeme ≠ []) ∧
      Token.concat ts = cs ∧
      ∀ ts₁ ts₂, ts = ts₁ ++ ts₂ →
        scan (Token.concat ts₁) = .ok ts₁ ∧ scan (Token.concat ts₂) = .ok ts₂) ∨
    ∃ e ts, scan cs = .error e ∧ ts.length ≤ cs.length ∧ cs = Token.concat ts ++ e.remaining ∧
      e.offset = byteLength (Token.concat ts) ∧ e.remaining ≠ [] ∧
      (∀ k : TokenKind, k.cut e.remaining = none) ∧ scan (Token.concat ts) = .ok ts := by
  obtain ⟨ts, r, hscans, hr⟩ := exists_scans cs
  have happ := hscans.concat_append
  have hlexed := hscans.lexed
  have hlen := hlexed.length_le
  have hscan : scan cs = _ := hscans.scanFrom_eq 0
  by_cases hnil : r = []
  · -- The scan has come to the end of the text.
    left
    rw [hnil, List.append_nil] at happ
    rw [← happ]
    refine ⟨ts, hlexed.scan_concat, hlen, ?_, rfl, ?_⟩
    · intro t ht
      exact (hlexed.isLexeme t ht).matchesKind.ne_nil
    · rintro ts₁ ts₂ rfl
      obtain ⟨h₁, h₂⟩ := hlexed.of_append
      exact ⟨h₁.scan_concat, h₂.scan_concat⟩
  · -- No rule applies to what is left.
    right
    have hnone := hr hnil
    rw [scanFrom_of_nextToken_eq_none hnil hnone] at hscan
    refine ⟨_, ts, hscan, ?_, happ.symm, Nat.zero_add _, hnil, nextToken_eq_none_iff.1 hnone,
      hlexed.scan_concat⟩
    rw [← happ, List.length_append]
    omega

end Adventure.Action
