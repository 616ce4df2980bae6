import Adventure.Proofs.Action.Departure
import Adventure.Proofs.Action.Spelling

/-!
# The arguments of a call

A call whose key and element are names has a statement exactly if the function takes its value. The
names go into the statement as they are written, and the value decides everything else.

* `compile_of_isOperand` : the statement of a call with a value that its function takes.
* `compile_of_fault?` : how a call fails with a value that its function does not take.
-/

namespace Adventure.Action

variable {render : List Char → List Char} {gap : Nat → List Char} {k : Keyword}
  {key element x y : List Char}

/-! ### Names -/

/-- The text of a name in an action, and what a statement has for it between two quotes: a string
literal in one line, or an identifier that is no keyword. -/
inductive IsNameText : List Char → List Char → Prop
  | literal {body : List Char} (h : LiteralBody body) :
      IsNameText ('"' :: (body ++ ['"'])) (singleLine body)
  | identifier {l : List Char} (h : IsIdentifier l) (hne : ∀ k : Keyword, l ≠ k.name.toList) :
      IsNameText l l

/-- The text of a name is a token that says the name. -/
lemma IsNameText.exists_token (h : IsNameText key x) :
    ∃ t : Token, t.lexeme = key ∧ t.IsLexeme ∧ ∃ name, t.IsName name ∧ unquote name = some x := by
  cases h with
  | @literal body h =>
    refine ⟨⟨.string, '"' :: (body ++ ['"'])⟩, rfl, ⟨⟨_, h, rfl⟩, by simp⟩, _, .string _, ?_⟩
    rw [singleLine_quoted, unquote_quoted (escaped_singleLine h)]
  | identifier h hne =>
    exact ⟨⟨.identifier, key⟩, rfl, ⟨h, fun _ => hne⟩, key, .identifier key, unquote_identifier h⟩

/-! ### The tokens of a call -/

/-- What is written as a call has the statement of its tokens, or fails as they do. -/
lemma compile_callText_eq (render : List Char → List Char)
    (hgap : ∀ n, ∀ c ∈ gap n, isSpace c = true) {key value element : Token}
    (hl : ∀ t ∈ [key, value, element], t.IsLexeme)
    (hk : ∀ t ∈ [key, value, element], t.kind ≠ .whitespace) :
    compile render (callText gap k key.lexeme value.lexeme element.lexeme) =
      (compileTokens render (callTokens k key value element)).mapError
        (⟨callText gap k key.lexeme value.lexeme element.lexeme, ·⟩) := by
  rw [← spaced_callTokens]
  obtain ⟨ts, hts, hconcat⟩ := exists_respaced hgap (lexed_callTokens (k := k) hl hk)
  have htok : tokenize (spaced gap (callTokens k key value element)) = .ok ts :=
    tokenize_eq_ok_iff.2 ⟨hconcat, hts.lexed⟩
  rw [compile_of_tokenize htok, hts.significant_eq, significant_callTokens hk]

/-! ### Values -/

/-- A call with names and a value that its function takes has a statement. -/
theorem compile_of_isOperand (hgap : ∀ n, ∀ c ∈ gap n, isSpace c = true) (hkey : IsNameText key x)
    (helement : IsNameText element y) {t : Token} (ht : t.IsLexeme) {op : Operation}
    (hop : t.IsOperand render op) :
    compile render (callText gap op.keyword key t.lexeme element) =
      .ok (Assignment.text ⟨y, x, op.keyword, op.value.render⟩) := by
  obtain ⟨tk, rfl, lk, m, hm, hx⟩ := hkey.exists_token
  obtain ⟨te, rfl, le, n, hn, hy⟩ := helement.exists_token
  have hcall : IsCall render (callTokens op.keyword tk t te) ⟨m, n, op⟩ :=
    ⟨tk, t, te, rfl, hm, hop, hn⟩
  have ha : Assignment.IsOf ⟨y, x, op.keyword, op.value.render⟩ ⟨m, n, op⟩ := ⟨hy, hx, rfl, rfl⟩
  rw [← spaced_callTokens]
  apply compile_spaced hgap _ hcall ha
  exact lexed_callTokens (by simp [lk, ht, le]) (by simp [hm.kind_ne, hop.kind_ne, hn.kind_ne])

/-- In a call with a name for its key, the value is the first token that may not fit. -/
lemma readCall_callTokens_of_fault? {key value element : Token} (hkey : key.IsName x) {c : Cause}
    (hc : (Slot.value k).fault? value = some c) :
    readCall render (callTokens k key value element) = .error c := by
  have hfits : Slot.name.Fits render key := ⟨x, hkey⟩
  by_cases hset : k = .set
  · -- The value of `set` comes behind the key.
    subst hset
    have hfills : Fills render [.ofKeyword .set, .oparen, key, .comma] .set [.oparen, key, .comma]
        [.value .set, .mark .comma, .name, .mark .cparen] :=
      ⟨⟨_, rfl, rfl⟩, [.mark .oparen, .name, .mark .comma], rfl,
        .cons rfl (.cons hfits (.cons rfl .nil))⟩
    exact readCall_of_fault? hfills hc
  · have hfills : Fills render [.ofKeyword k, .oparen] k [.oparen]
        [.value k, .mark .comma, .name, .mark .comma, .name, .mark .cparen] := by
      refine ⟨⟨_, rfl, rfl⟩, [.mark .oparen], ?_, .cons rfl .nil⟩
      cases k with
      | set => exact absurd rfl hset
      | _ => rfl
    cases k with
    | set => exact absurd rfl hset
    | _ => exact readCall_of_fault? hfills hc

/-- A call with names and a value that its function does not take fails for what is wrong with the
value. -/
theorem compile_of_fault? (hgap : ∀ n, ∀ c ∈ gap n, isSpace c = true) (hkey : IsNameText key x)
    (helement : IsNameText element y) {t : Token} (ht : t.IsLexeme) (hk : t.kind ≠ .whitespace)
    {c : Cause} (hc : (Slot.value k).fault? t = some c) :
    compile render (callText gap k key t.lexeme element) =
      .error ⟨callText gap k key t.lexeme element, c⟩ := by
  obtain ⟨tk, rfl, lk, m, hm, -⟩ := hkey.exists_token
  obtain ⟨te, rfl, le, n, hn, -⟩ := helement.exists_token
  have hne : callTokens k tk t te ≠ [] := by cases k <;> exact List.cons_ne_nil _ _
  have hread : compileTokens render (callTokens k tk t te) = .error c := by
    rw [compileTokens, if_neg (by simpa using hne), readCall_callTokens_of_fault? hm hc]
    rfl
  rw [compile_callText_eq render hgap (by simp [lk, ht, le]) (by simp [hm.kind_ne, hk, hn.kind_ne]),
    hread]
  rfl

end Adventure.Action
