import Adventure.Markdown.Render
import Adventure.Proofs.Action.Calls

/-!
# White space between tokens

White space may be put at every boundary of two tokens, at the start and at the end, and may be
taken away from a call altogether, since between the words of a call there is always a parenthesis
or a comma.

* `exists_respaced` : the significant tokens of a text that is spaced out.
* `compile_respaced` : spacing does not matter for the statement of an action.
-/

namespace Adventure.Action

open Text

variable {render : List Char → List Char}

/-! ### White space added -/

/-- The tokens written out, with the text `gap n` in front of token number `n`, and the last of
these texts at the end. -/
def spaced (gap : Nat → List Char) : List Token → List Char
  | []      => gap 0
  | t :: ts => gap 0 ++ t.lexeme ++ spaced (fun n => gap (n + 1)) ts

/-- The tokens `ts'` are `ts` with other white space. What may stand in front of `ts` may stand in
front of `ts'`, so that the rest of a text can be exchanged for one with other white space. -/
structure Respaced (ts ts' : List Token) : Prop where
  lexed : Lexed ts'
  significant_eq : significant ts' = significant ts
  mayTouch : ∀ t : Token, t.kind ≠ .whitespace → (∀ x ∈ ts.head?, t.MayTouch x) →
    ∀ x ∈ ts'.head?, t.MayTouch x

lemma not_isWord_of_isSpace {c : Char} (h : isSpace c = true) : isWord c = false := by
  simp only [isSpace, Bool.or_eq_true, beq_iff_eq] at h
  rcases h with (rfl | rfl) | rfl <;> decide

/-- Everything but white space may stand in front of white space. -/
lemma Token.mayTouch_whitespace {t : Token} (ht : t.kind ≠ .whitespace) {g : List Char}
    (hg : TokenKind.whitespace.Matches g) : t.MayTouch ⟨.whitespace, g⟩ := by
  refine ⟨?_, by simp⟩
  obtain ⟨c, g, rfl⟩ := List.exists_cons_of_ne_nil hg.1
  have hc := not_isWord_of_isSpace (hg.2 c (List.mem_cons_self ..))
  obtain ⟨k, l⟩ := t
  cases k <;> simp_all [TokenKind.StopsBefore, atWordEnd]

/-- White space may stand in front of everything but white space. -/
lemma Token.whitespace_mayTouch {g : List Char} {t : Token} (ht : t.IsLexeme)
    (hk : t.kind ≠ .whitespace) : Token.MayTouch ⟨.whitespace, g⟩ t := by
  refine ⟨?_, by simp⟩
  intro c hc
  obtain ⟨l, hl⟩ := List.head?_eq_some_iff.1 hc
  by_contra hspace
  have hm := ht.matchesKind
  rw [hl] at hm
  rw [Bool.not_eq_false] at hspace
  exact hk (hm.eq_whitespace hspace)

lemma significant_cons {t : Token} (h : t.kind ≠ .whitespace) (ts : List Token) :
    significant (t :: ts) = t :: significant ts :=
  List.filter_cons_of_pos (by simpa [Token.isSignificant] using h)

/-- White space in front of tokens joins the white space that they start with. Everything else may
stand in front of the result. -/
lemma exists_respaced_append {g : List Char} (hg : TokenKind.whitespace.Matches g)
    {ts : List Token} (h : Lexed ts) :
    ∃ ts', Lexed ts' ∧ Token.concat ts' = g ++ Token.concat ts ∧
      significant ts' = significant ts ∧
      ∀ t : Token, t.kind ≠ .whitespace → ∀ x ∈ ts'.head?, t.MayTouch x := by
  obtain ⟨w, ts, rfl⟩ | hts : (∃ w r, ts = ⟨.whitespace, w⟩ :: r) ∨
      ∀ x ∈ ts.head?, x.kind ≠ .whitespace := by
    rcases ts with _ | ⟨⟨k, l⟩, ts⟩
    · exact .inr (by simp)
    · by_cases hk : k = .whitespace
      · exact .inl ⟨l, ts, by rw [hk]⟩
      · exact .inr (by simpa using hk)
  · -- White space in front of white space makes one token with it.
    obtain ⟨hw, hhead, hts⟩ := lexed_cons.1 h
    have hgw : TokenKind.whitespace.Matches (g ++ w) := by
      refine ⟨by simp [hg.1], fun c hc => ?_⟩
      exact (List.mem_append.1 hc).elim (hg.2 c) (hw.matchesKind.2 c)
    have hlexed : Lexed (⟨.whitespace, g ++ w⟩ :: ts) :=
      lexed_cons.2 ⟨⟨hgw, by simp⟩, fun x hx => ⟨(hhead x hx).stops, by simp⟩, hts⟩
    refine ⟨_, hlexed, by simp, rfl, ?_⟩
    intro t ht x hx
    obtain rfl := Option.mem_some_iff.1 hx
    exact Token.mayTouch_whitespace ht hgw
  · have hlexed : Lexed (⟨.whitespace, g⟩ :: ts) := by
      refine lexed_cons.2 ⟨⟨hg, by simp⟩, fun x hx => ?_, h⟩
      exact Token.whitespace_mayTouch (h.isLexeme x (List.mem_of_mem_head? hx)) (hts x hx)
    refine ⟨_, hlexed, by simp, rfl, ?_⟩
    intro t ht x hx
    obtain rfl := Option.mem_some_iff.1 hx
    exact Token.mayTouch_whitespace ht hg

/-- White space put in front of tokens that were respaced. -/
lemma Respaced.exists_append {g : List Char} (hg : ∀ c ∈ g, isSpace c = true)
    {ts ts' : List Token} (h : Respaced ts ts') :
    ∃ ts'', Respaced ts ts'' ∧ Token.concat ts'' = g ++ Token.concat ts' := by
  by_cases hne : g = []
  · subst hne
    exact ⟨ts', h, rfl⟩
  · obtain ⟨ts'', hlexed, hconcat, hsig, htouch⟩ := exists_respaced_append ⟨hne, hg⟩ h.lexed
    exact ⟨ts'', ⟨hlexed, hsig.trans h.significant_eq, fun t ht _ => htouch t ht⟩, hconcat⟩

/-- Tokens written out with white space at any of their boundaries are cut into the same significant
tokens again. -/
theorem exists_respaced {gap : Nat → List Char} (hgap : ∀ n, ∀ c ∈ gap n, isSpace c = true)
    {ts : List Token} (h : Lexed ts) :
    ∃ ts', Respaced ts ts' ∧ Token.concat ts' = spaced gap ts := by
  induction ts generalizing gap with
  | nil =>
    have hnil : Respaced [] [] := ⟨h, rfl, fun _ _ hx => hx⟩
    simpa [spaced] using hnil.exists_append (hgap 0)
  | cons t ts ih =>
    obtain ⟨ht, hhead, hts⟩ := lexed_cons.1 h
    obtain ⟨rs, hrs, hconcat⟩ := ih (fun n => hgap (n + 1)) hts
    -- a token of white space joins the gap that follows it, any other token stays as it is
    have hstep : ∃ rs', Respaced (t :: ts) rs' ∧
        Token.concat rs' = t.lexeme ++ Token.concat rs := by
      by_cases hk : t.kind = .whitespace
      · obtain ⟨k, w⟩ := t
        simp only at hk
        subst hk
        obtain ⟨rs', hlexed, hc, hsig, htouch⟩ := exists_respaced_append ht.matchesKind hrs.lexed
        exact ⟨rs', ⟨hlexed, hsig.trans hrs.significant_eq, fun u hu _ => htouch u hu⟩, hc⟩
      · refine ⟨t :: rs, ⟨lexed_cons.2 ⟨ht, hrs.mayTouch t hk hhead, hrs.lexed⟩, ?_, ?_⟩, rfl⟩
        · rw [significant_cons hk, significant_cons hk, hrs.significant_eq]
        · intro u _ hu
          simpa using hu
    obtain ⟨rs', hrs', hc⟩ := hstep
    obtain ⟨ts', hts', hc'⟩ := hrs'.exists_append (hgap 0)
    exact ⟨ts', hts', by rw [hc', hc, hconcat, spaced, List.append_assoc]⟩

/-! ### White space taken away -/

/-- A parenthesis or a comma may stand in front of everything. -/
lemma Token.mark_mayTouch {m : Token} (hm : m = .oparen ∨ m = .cparen ∨ m = .comma) (t : Token) :
    m.MayTouch t := by
  rcases hm with rfl | rfl | rfl <;> exact ⟨trivial, by simp [oparen, cparen, comma]⟩

/-- Everything but white space may stand in front of a parenthesis or a comma. -/
lemma Token.mayTouch_mark {t : Token} (ht : t.kind ≠ .whitespace) {m : Token}
    (hm : m = .oparen ∨ m = .cparen ∨ m = .comma) : t.MayTouch m := by
  refine ⟨?_, fun _ _ => ?_⟩
  · obtain ⟨k, l⟩ := t
    rcases hm with rfl | rfl | rfl <;> cases k <;> first | exact absurd rfl ht | trivial
  · rcases hm with rfl | rfl | rfl <;> simp [oparen, cparen, comma]

lemma Token.isLexeme_ofKeyword (k : Keyword) : (Token.ofKeyword k).IsLexeme :=
  ⟨rfl, by simp [ofKeyword]⟩

lemma Token.isLexeme_mark {m : Token} (hm : m = .oparen ∨ m = .cparen ∨ m = .comma) :
    m.IsLexeme := by
  rcases hm with rfl | rfl | rfl <;> exact ⟨rfl, by simp [oparen, cparen, comma]⟩

/-- The tokens of a call may stand side by side: every other one is a parenthesis or a comma. -/
lemma lexed_callForm {k : Keyword} {a b c : Token} (h : ∀ t ∈ [a, b, c], t.IsLexeme)
    (hk : ∀ t ∈ [a, b, c], t.kind ≠ .whitespace) : Lexed (callForm k a b c) := by
  simp only [List.forall_mem_cons] at h hk
  obtain ⟨ha, hb, hc, -⟩ := h
  obtain ⟨ka, kb, kc, -⟩ := hk
  constructor
  · simp only [callForm, List.forall_mem_cons]
    exact ⟨Token.isLexeme_ofKeyword k, Token.isLexeme_mark (by simp), ha,
      Token.isLexeme_mark (by simp), hb, Token.isLexeme_mark (by simp), hc,
      Token.isLexeme_mark (by simp), by simp⟩
  · have hkey : (Token.ofKeyword k).kind ≠ .whitespace := by simp [Token.ofKeyword]
    simp only [callForm, List.isChain_cons_cons, List.IsChain.singleton, and_true]
    exact ⟨Token.mayTouch_mark hkey (by simp), Token.mark_mayTouch (by simp) a,
      Token.mayTouch_mark ka (by simp), Token.mark_mayTouch (by simp) b,
      Token.mayTouch_mark kb (by simp), Token.mark_mayTouch (by simp) c,
      Token.mayTouch_mark kc (by simp)⟩

/-- The parts of a call may stand directly next to each other. -/
lemma lexed_callTokens {k : Keyword} {key value element : Token}
    (h : ∀ t ∈ [key, value, element], t.IsLexeme)
    (hk : ∀ t ∈ [key, value, element], t.kind ≠ .whitespace) :
    Lexed (callTokens k key value element) := by
  have hswap : ∀ t ∈ [value, key, element], t ∈ [key, value, element] := by simp
  cases k with
  | set => exact lexed_callForm h hk
  | _ => exact lexed_callForm (fun t ht => h t (hswap t ht)) (fun t ht => hk t (hswap t ht))

lemma Token.IsName.kind_ne {t : Token} {x : List Char} (h : t.IsName x) : t.kind ≠ .whitespace := by
  cases h <;> simp

lemma Token.IsOperand.kind_ne {t : Token} {op : Operation} (h : t.IsOperand render op) :
    t.kind ≠ .whitespace := by
  rcases h with (⟨⟨⟩⟩ | _ | _) | (⟨⟨⟩⟩ | _ | _) | ⟨⟨⟩⟩ | ⟨⟨⟩⟩ | ⟨⟨⟩, _⟩ <;> simp

/-- A call can be written without white space. -/
lemma IsCall.lexed {ts : List Token} {call : Call} (hl : ∀ t ∈ ts, t.IsLexeme)
    (h : IsCall render ts call) : Lexed ts := by
  obtain ⟨key, value, element, rfl, hkey, hvalue, helement⟩ := h
  refine lexed_callTokens (fun t ht => hl t (mem_callTokens _ ht)) ?_
  simp only [List.forall_mem_cons]
  exact ⟨hkey.kind_ne, hvalue.kind_ne, helement.kind_ne, by simp⟩

/-! ### Statements -/

/-- The statement that the significant tokens of an action make, and nothing if there are none. -/
def compileTokens (render : List Char → List Char) (ts : List Token) :
    Except Cause (List Char) := do
  if ts.isEmpty then return []
  let call ← readCall render ts
  call.statement.mapError .unbalancedQuote

/-- Only the significant tokens of an action matter. A failure tells the text of the action as well.
-/
lemma compile_of_tokenize {action : List Char} {ts : List Token} (h : tokenize action = .ok ts) :
    compile render action = (compileTokens render (significant ts)).mapError (⟨action, ·⟩) := by
  rw [compile, lex_of_tokenize h]
  by_cases hempty : (significant ts).isEmpty = true
  · simp [compileTokens, hempty, bind, Except.bind, pure, Except.pure, Except.mapError]
  · cases hread : readCall render (significant ts) with
    | error e => simp [compileTokens, hempty, hread, bind, Except.bind, Except.mapError]
    | ok call =>
      cases hst : call.statement <;>
        simp [compileTokens, hempty, hread, hst, bind, Except.bind, Except.mapError]

/-- What compiles is cut into tokens. -/
lemma exists_tokenize_of_compile {action out : List Char} (h : compile render action = .ok out) :
    ∃ ts, tokenize action = .ok ts := by
  obtain ⟨_, hlex, -⟩ := bind_eq_ok_iff.1 h
  obtain ⟨ts, hts, -⟩ := lex_eq_ok_iff.1 hlex
  exact ⟨ts, hts⟩

/-- Actions with the same significant tokens have the same statement, or fail for the same cause. -/
lemma compile_eq_of_significant {action action' : List Char} {ts ts' : List Token}
    (h : tokenize action = .ok ts) (h' : tokenize action' = .ok ts')
    (hsig : significant ts' = significant ts) :
    compile render action' =
      (compile render action).mapError fun f => { f with action := action' } := by
  rw [compile_of_tokenize h, compile_of_tokenize h', hsig]
  cases compileTokens render (significant ts) <;> rfl

/-- Tokens have a statement if there are none, or if they are a call whose quotes match. -/
lemma compileTokens_eq_ok_iff {ts : List Token} {out : List Char} :
    compileTokens render ts = .ok out ↔
      (ts = [] ∧ out = []) ∨
        ∃ call, ts ≠ [] ∧ readCall render ts = .ok call ∧ call.statement = .ok out := by
  cases ts with
  | nil => simp [compileTokens, pure, Except.pure, eq_comm]
  | cons t ts =>
    simp only [compileTokens, List.isEmpty_cons, Bool.false_eq_true, if_false, bind_eq_ok_iff,
      mapError_eq_ok_iff]
    simp

/-- White space at the boundaries of tokens does not matter. A text that is cut into tokens is cut
into the same significant tokens when white space is put at any boundaries, and has the same
statement or fails for the same cause; and an action that has a statement keeps it when all white
space between its tokens is taken away. -/
theorem compile_respaced (render : List Char → List Char) {action : List Char} {ts : List Token}
    (h : tokenize action = .ok ts) :
    (∀ gap : Nat → List Char, (∀ n, ∀ c ∈ gap n, isSpace c = true) →
      (∃ ts', tokenize (spaced gap ts) = .ok ts' ∧ significant ts' = significant ts) ∧
      compile render (spaced gap ts) =
        (compile render action).mapError fun f => { f with action := spaced gap ts }) ∧
    ∀ out, compile render action = .ok out →
      compile render (Token.concat (significant ts)) = .ok out := by
  obtain ⟨-, hlexed⟩ := tokenize_eq_ok_iff.1 h
  constructor
  · intro gap hgap
    obtain ⟨ts', hts', hconcat⟩ := exists_respaced hgap hlexed
    have htok : tokenize (spaced gap ts) = .ok ts' := tokenize_eq_ok_iff.2 ⟨hconcat, hts'.lexed⟩
    exact ⟨⟨ts', htok, hts'.significant_eq⟩, compile_eq_of_significant h htok hts'.significant_eq⟩
  · intro out hout
    have hsig : significant (significant ts) = significant ts := by simp [significant]
    -- Tokens may not touch in general, but those of a call may, and the action compiles.
    have hlexed' : Lexed (significant ts) := by
      rw [compile_of_tokenize h, mapError_eq_ok_iff, compileTokens_eq_ok_iff] at hout
      rcases hout with ⟨hnil, -⟩ | ⟨call, -, hread, -⟩
      · rw [hnil]
        exact lexed_nil
      · have hl := hlexed.isLexeme_of_mem_significant
        exact ((readCall_eq_ok_iff hl).1 hread).lexed hl
    have htok : tokenize (Token.concat (significant ts)) = .ok (significant ts) :=
      tokenize_eq_ok_iff.2 ⟨rfl, hlexed'⟩
    rw [compile_eq_of_significant h htok hsig, hout]
    rfl

/-- Tabs between the tokens of an action, and no white space at all. -/
theorem compile_respaced_tabs :
    ∃ ts, tokenize "sub(1, amount, coin)".toList = .ok ts ∧
      compile (Markdown.render {}) (spaced (fun _ => ['\t']) ts) =
        .ok "getRoomOrItem(\"coin\")[\"amount\"] -= 1;".toList ∧
      compile (Markdown.render {}) (Token.concat (significant ts)) =
        .ok "getRoomOrItem(\"coin\")[\"amount\"] -= 1;".toList := by
  have hout : compile (Markdown.render {}) "sub(1, amount, coin)".toList =
      .ok "getRoomOrItem(\"coin\")[\"amount\"] -= 1;".toList := by decide +kernel
  obtain ⟨ts, hts⟩ : ∃ ts, tokenize "sub(1, amount, coin)".toList = .ok ts :=
    exists_tokenize_of_compile hout
  obtain ⟨hspaced, hdense⟩ := compile_respaced (Markdown.render {}) hts
  obtain ⟨-, htabs⟩ := hspaced (fun _ => ['\t']) (by simp [isSpace])
  rw [hout] at htabs
  exact ⟨ts, hts, htabs, hdense _ hout⟩

end Adventure.Action
