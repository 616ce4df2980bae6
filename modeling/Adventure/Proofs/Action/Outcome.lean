import Adventure.Proofs.Action.Assignments
import Adventure.Proofs.Action.Departure

/-!
# How actions compile

An action compiles exactly if it is blank or the parser finds a call, and then its statement is that
of the call. Names keep their quotes in a call, and those of a name that the parser has read always
match, so that the failures of the compiler are those of the parser.

* `compile_eq_parse_statement` : compiling is parsing and then writing the statement.
-/

namespace Adventure.Action

variable {render : List Char → List Char} {action : List Char}

/-! ### Blank actions -/

/-- White space is one token, and no text is none. -/
lemma exists_lexed_of_isBlank (h : isBlank action = true) :
    ∃ ts, Lexed ts ∧ Token.concat ts = action := by
  cases action with
  | nil => exact ⟨[], lexed_nil, rfl⟩
  | cons c cs =>
    have ht : Token.IsLexeme ⟨.whitespace, c :: cs⟩ :=
      ⟨⟨List.cons_ne_nil c cs, List.all_eq_true.1 h⟩, by simp⟩
    exact ⟨[⟨.whitespace, c :: cs⟩], lexed_cons.2 ⟨ht, by simp, lexed_nil⟩, by simp [Token.concat]⟩

/-- The grammar sees no token exactly if the action is blank. -/
lemma lex_eq_ok_nil_iff : lex action = .ok [] ↔ isBlank action = true := by
  constructor
  · intro h
    obtain ⟨ts, hts, hnil⟩ := lex_eq_ok_iff.1 h
    obtain ⟨hconcat, hlexed⟩ := tokenize_eq_ok_iff.1 hts
    rw [← hconcat, ← hlexed.significant_eq_nil_iff, hnil]
  · intro h
    obtain ⟨ts, hlexed, hconcat⟩ := exists_lexed_of_isBlank h
    have hnil : significant ts = [] := by rwa [hlexed.significant_eq_nil_iff, hconcat]
    exact lex_eq_ok_iff.2 ⟨ts, tokenize_eq_ok_iff.2 ⟨hconcat, hlexed⟩, hnil⟩

/-- An action without significant tokens has the empty statement. -/
lemma compile_of_lex_nil (h : lex action = .ok []) : compile render action = .ok [] := by
  rw [compile, h]
  rfl

/-! ### Calls and failures -/

/-- A call that the parser finds has an assignment. -/
lemma exists_assignment_of_parse {call : Call} (h : parse render action = .ok call) :
    ∃ a : Assignment, a.IsOf call ∧ a.WellFormed := by
  obtain ⟨ts, hlex, hread⟩ := bind_eq_ok_iff.1 h
  have hl := isLexeme_of_lex hlex
  rw [mapError_eq_ok_iff, readCall_eq_ok_iff hl] at hread
  exact hread.exists_assignment hl

/-- Behind the lexer, an action that is not blank compiles by way of its call. -/
lemma compile_eq_of_lex {ts : List Token} (h : lex action = .ok ts) (hne : ts ≠ []) :
    compile render action = parse render action >>= fun call =>
      call.statement.mapError fun name => ⟨action, .unbalancedQuote name⟩ := by
  rw [compile, parse, h]
  simp [hne, bind, Except.bind]

/-- A call that parses has a statement, which is not empty. The quotes of its names match, since the
lexer cut them. -/
lemma compile_of_parse_eq_ok {call : Call} (hne : lex action ≠ .ok [])
    (h : parse render action = .ok call) :
    ∃ st, call.statement = .ok st ∧ st ≠ [] ∧ compile render action = .ok st := by
  obtain ⟨ts, hlex, -⟩ := bind_eq_ok_iff.1 h
  obtain ⟨a, ha, -⟩ := exists_assignment_of_parse h
  have hst := ha.statement
  refine ⟨a.text, hst, by simpa using a.text_append_ne_nil [], ?_⟩
  rw [compile_eq_of_lex hlex (fun hnil => hne (hnil ▸ hlex)), h]
  show call.statement.mapError _ = _
  rw [hst]
  rfl

/-- A failure of the parser is passed on as it is. -/
lemma compile_of_parse_eq_error {f : Failure} (hne : lex action ≠ .ok [])
    (h : parse render action = .error f) : compile render action = .error f := by
  cases hlex : lex action with
  | error f' =>
    rw [parse, hlex] at h
    obtain rfl := Except.error.inj h
    rw [compile, hlex]
    rfl
  | ok ts =>
    rw [compile_eq_of_lex hlex (fun hnil => hne (hnil ▸ hlex)), h]
    rfl

/-- The parser does not look at quotes. -/
lemma cause_ne_unbalancedQuote_of_parse {f : Failure} (hne : lex action ≠ .ok [])
    (h : parse render action = .error f) (name : List Char) : f.cause ≠ .unbalancedQuote name := by
  cases hlex : lex action with
  | error f' =>
    rw [parse, hlex] at h
    obtain rfl := Except.error.inj h
    rw [lex] at hlex
    split at hlex
    · cases hlex
    · obtain rfl := Except.error.inj hlex
      exact fun hcause => by cases hcause
  | ok ts =>
    obtain ⟨-, hfault⟩ := fault_of_parse_eq_error hlex (fun hnil => hne (hnil ▸ hlex)) h
    intro hcause
    rw [hcause] at hfault
    cases hfault

/-- Compiling is parsing and then writing the statement of the call, but for blank actions, and they
are the only ones with an empty statement. A quote of a name never lacks the other one. -/
theorem compile_eq_parse_statement (render : List Char → List Char) (action : List Char) :
    (lex action = .ok [] → compile render action = .ok []) ∧
    (lex action ≠ .ok [] →
      (∀ call, parse render action = .ok call →
        ∃ st, call.statement = .ok st ∧ st ≠ [] ∧ compile render action = .ok st) ∧
      ∀ f, parse render action = .error f → compile render action = .error f) ∧
    (∀ f, compile render action = .error f → ∀ name, f.cause ≠ .unbalancedQuote name) ∧
    (∀ ts, lex action = .ok ts → ∀ t ∈ ts, ∀ name, t.IsName name → ∃ x, unquote name = some x) ∧
    (∀ call, parse render action = .ok call →
      (∃ x, unquote call.key = some x) ∧ ∃ x, unquote call.element = some x) ∧
    (compile render action = .ok [] ↔ isBlank action = true) := by
  refine ⟨compile_of_lex_nil, ?_, ?_, ?_, ?_, ?_⟩
  · intro hne
    exact ⟨fun call => compile_of_parse_eq_ok hne, fun f => compile_of_parse_eq_error hne⟩
  · intro f hf
    have hne : lex action ≠ .ok [] := by
      intro hnil
      rw [compile_of_lex_nil hnil] at hf
      cases hf
    cases hparse : parse render action with
    | ok call =>
      obtain ⟨st, -, -, hst⟩ := compile_of_parse_eq_ok hne hparse
      rw [hst] at hf
      cases hf
    | error f' =>
      rw [compile_of_parse_eq_error hne hparse] at hf
      obtain rfl := Except.error.inj hf
      exact cause_ne_unbalancedQuote_of_parse hne hparse
  · intro ts hts t ht name hname
    obtain ⟨x, hx, -⟩ := hname.exists_unquote (isLexeme_of_lex hts t ht)
    exact ⟨x, hx⟩
  · intro call hcall
    obtain ⟨a, ha, -⟩ := exists_assignment_of_parse hcall
    exact ⟨⟨_, ha.key⟩, _, ha.element⟩
  · -- A statement is never empty, so the empty output belongs to a blank action.
    rw [← lex_eq_ok_nil_iff]
    refine ⟨fun hcompile => ?_, compile_of_lex_nil⟩
    rcases exists_assignment_of_compile hcompile with ⟨hblank, -⟩ | ⟨-, a, -, -, ha⟩
    · exact lex_eq_ok_nil_iff.2 hblank
    · exact absurd ha.symm (by simpa using a.text_append_ne_nil [])

/-- A name with an escaped quote at its end and a line end in front of it. -/
theorem compile_eq_parse_statement_quotes :
    compile id "add(1, \"a\r\n\\\"\", room)".toList =
      .ok "getRoomOrItem(\"room\")[\"a\\n\\\"\"] += 1;".toList := by
  have hparse : parse id "add(1, \"a\r\n\\\"\", room)".toList =
      .ok ⟨"\"a\\n\\\"\"".toList, "room".toList, .add (.integer 1)⟩ := by decide +kernel
  have hne : lex "add(1, \"a\r\n\\\"\", room)".toList ≠ .ok [] := by decide +kernel
  obtain ⟨-, hcompile, -⟩ := compile_eq_parse_statement id "add(1, \"a\r\n\\\"\", room)".toList
  obtain ⟨st, hst, -, hout⟩ := (hcompile hne).1 _ hparse
  obtain rfl := Except.ok.inj (hst.symm.trans (by rfl))
  exact hout

end Adventure.Action
