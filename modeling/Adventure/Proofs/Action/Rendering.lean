import Adventure.Proofs.Action.Outcome

/-!
# Actions under two renderings

How Markdown is rendered shows in the value of a call whose value is a Markdown literal, and nowhere
else.

* `failure?_readCall` : how the parser fails does not depend on the rendering.
* `IsCall.agrees` : the same tokens make calls that agree.
* `compilesAlike`, `exists_forall₃_of_compileAll` : an action and a list of actions under two
  renderings.
-/

namespace Adventure

/-! ### Three lists -/

/-- Three lists are related element by element. -/
inductive Forall₃ {α β γ : Type} (R : α → β → γ → Prop) : List α → List β → List γ → Prop
  | nil : Forall₃ R [] [] []
  | cons {a : α} {b : β} {c : γ} {as : List α} {bs : List β} {cs : List γ} (h : R a b c)
      (hs : Forall₃ R as bs cs) : Forall₃ R (a :: as) (b :: bs) (c :: cs)

/-- Two lists that are both related to a third one. -/
lemma Forall₃.of_forall₂ {α β γ : Type} {P : α → β → Prop} {Q : α → γ → Prop}
    {R : α → β → γ → Prop} {as : List α} {bs : List β} {cs : List γ} (hP : List.Forall₂ P as bs)
    (hQ : List.Forall₂ Q as cs) (h : ∀ a b c, P a b → Q a c → R a b c) : Forall₃ R as bs cs := by
  induction hP generalizing cs with
  | nil =>
    cases hQ
    exact .nil
  | cons hab _ ih =>
    obtain _ | ⟨hac, hQ⟩ := hQ
    exact .cons (h _ _ _ hab hac) (ih hQ)

namespace Action

open Number

variable {render render' : List Char → List Char} {action : List Char} {ts : List Token}
  {t value : Token}

/-! ### Failures -/

/-- The parser fails in a slot, or at a token behind the slots. -/
lemma failure?_readCall_cons {k : Keyword} (hk : t.kind = .keyword k) (ts : List Token) :
    failure? (readCall render (t :: ts)) =
      failure? (checkSlots (slots k) ts >>= fun rest =>
        rest.head?.elim (.ok ()) fun t' => .error (.trailingTokens t'.lexeme)) := by
  rw [← readArguments_eq_checkSlots render, readCall, hk]
  dsimp only
  cases readArguments render k ts with
  | error c => rfl
  | ok x =>
    obtain ⟨call, rest⟩ := x
    cases rest <;> rfl

/-- How the parser fails does not depend on the rendering. -/
theorem failure?_readCall (render render' : List Char → List Char) (ts : List Token) :
    failure? (readCall render ts) = failure? (readCall render' ts) := by
  cases ts with
  | nil => rfl
  | cons t ts =>
    cases hk : t.kind with
    | keyword k => rw [failure?_readCall_cons hk, failure?_readCall_cons hk]
    | _ => rw [readCall, readCall, hk]

/-- How an action fails to parse does not depend on the rendering. -/
lemma failure?_parse (render render' : List Char → List Char) (action : List Char) :
    failure? (parse render action) = failure? (parse render' action) := by
  cases h : lex action with
  | error f =>
    rw [parse, parse, h]
    rfl
  | ok ts =>
    rw [parse_of_lex h, parse_of_lex h, failure?_mapError, failure?_mapError,
      failure?_readCall render render']

/-! ### What a token says -/

lemma Token.IsName.unique {x y : List Char} (h : t.IsName x) (h' : t.IsName y) : y = x := by
  cases h <;> cases h' <;> rfl

lemma Token.IsInteger.unique {m n : Int} (h : t.IsInteger m) (h' : t.IsInteger n) : n = m := by
  cases h with
  | mk hm hmin hmax =>
    cases h' with
    | mk hn hmin' hmax' =>
      have h := readInt64_eq_some_iff.2 ⟨hm, hmin, hmax⟩
      rw [readInt64_eq_some_iff.2 ⟨hn, hmin', hmax'⟩] at h
      exact Option.some.inj h

/-- A value that is no Markdown literal does not depend on the rendering. -/
lemma Token.IsValue.eq_of_ne {v v' : Value} (h : t.IsValue render v) (h' : t.IsValue render' v')
    (ht : t.kind ≠ .mdString) : v' = v := by
  cases h with
  | integer hn =>
    cases h' with
    | integer hn' => rw [hn.unique hn']
    | mdString l => exact absurd rfl ht
    | string l => cases hn
  | mdString l => exact absurd rfl ht
  | string l =>
    cases h' with
    | integer hn' => cases hn'
    | string => rfl

lemma Token.IsValue.eq_rendered {v : Value} (h : t.IsValue render v) (ht : t.kind = .mdString) :
    v = .text (quote (render (mdInterior t.lexeme))) := by
  cases h with
  | integer hn =>
    cases hn
    cases ht
  | mdString l => rfl
  | string l => cases ht

/-- Only Markdown literals are rendered. -/
lemma Token.IsOperand.eq_of_ne {op op' : Operation} (h : t.IsOperand render op)
    (h' : t.IsOperand render' op') (hk : op'.keyword = op.keyword) (ht : t.kind ≠ .mdString) :
    op' = op := by
  rw [Token.isOperand_iff] at h h'
  cases op <;> cases op' <;> try cases hk
  case set.set => rw [h.eq_of_ne h' ht]
  case add.add => rw [h.eq_of_ne h' ht]
  case sub.sub => rw [h.unique h']
  case mul.mul => rw [h.unique h']
  case div.div => simp only [h.unique h']

lemma Token.IsOperand.eq_rendered {op : Operation} (h : t.IsOperand render op)
    (ht : t.kind = .mdString) : op.value = .text (quote (render (mdInterior t.lexeme))) := by
  cases h with
  | set h | add h => exact h.eq_rendered ht
  | sub h | mul h | div h =>
    cases h
    cases ht

/-! ### Calls -/

lemma callTokens_inj {k k' : Keyword} {key value element key' value' element' : Token}
    (h : callTokens k key value element = callTokens k' key' value' element') :
    k' = k ∧ key' = key ∧ value' = value ∧ element' = element := by
  cases k <;> cases k' <;> simp_all [callTokens, callForm, Token.ofKeyword]

/-- The token is the value of the call that the action makes. -/
def IsValueOf (action : List Char) (value : Token) : Prop :=
  ∃ k key element, lex action = .ok (callTokens k key value element)

/-- Two calls with the token `value` for their value agree: they are the same, or the token is a
Markdown literal and each has the literal of what it is rendered to. -/
structure Call.AgreesBut (render render' : List Char → List Char) (value : Token)
    (call call' : Call) : Prop where
  key_eq : call'.key = call.key
  element_eq : call'.element = call.element
  keyword_eq : call'.operation.keyword = call.operation.keyword
  operation_eq : value.kind ≠ .mdString → call'.operation = call.operation
  rendered : value.kind = .mdString →
    call.operation.value = .text (quote (render (mdInterior value.lexeme))) ∧
      call'.operation.value = .text (quote (render' (mdInterior value.lexeme)))

/-- Two statements agree, but for the value if it is that of a Markdown literal. -/
structure Assignment.AgreesBut (value : Token) (a a' : Assignment) : Prop where
  element_eq : a'.element = a.element
  key_eq : a'.key = a.key
  function_eq : a'.function = a.function
  value_eq : value.kind ≠ .mdString → a'.value = a.value

theorem IsCall.agrees {call call' : Call} (h : IsCall render ts call)
    (h' : IsCall render' ts call') :
    ∃ key value element, ts = callTokens call.operation.keyword key value element ∧
      call.AgreesBut render render' value call' := by
  obtain ⟨key, value, element, rfl, hkey, hvalue, helement⟩ := h
  obtain ⟨key', value', element', hts, hkey', hvalue', helement'⟩ := h'
  obtain ⟨hk, rfl, rfl, rfl⟩ := callTokens_inj hts
  exact ⟨_, _, _, rfl, hkey.unique hkey', helement.unique helement', hk,
    hvalue.eq_of_ne hvalue' hk, fun ht => ⟨hvalue.eq_rendered ht, hvalue'.eq_rendered ht⟩⟩

/-- Calls that agree have statements that agree. -/
lemma Call.AgreesBut.assignment {call call' : Call} {a a' : Assignment}
    (h : call.AgreesBut render render' value call') (ha : a.IsOf call) (ha' : a'.IsOf call') :
    a.AgreesBut value a' := by
  refine ⟨?_, ?_, ?_, ?_⟩
  · have := ha'.element
    rw [h.element_eq, ha.element] at this
    exact (Option.some.inj this).symm
  · have := ha'.key
    rw [h.key_eq, ha.key] at this
    exact (Option.some.inj this).symm
  · rw [ha.function, ha'.function, h.keyword_eq]
  · intro ht
    rw [ha.value, ha'.value, h.operation_eq ht]

/-- Two runs of the parser on an action find calls that agree. -/
lemma exists_value_of_parse {call call' : Call} (h : parse render action = .ok call)
    (h' : parse render' action = .ok call') :
    ∃ value, IsValueOf action value ∧ call.AgreesBut render render' value call' := by
  obtain ⟨ts, hlex, h⟩ := bind_eq_ok_iff.1 h
  have hl := isLexeme_of_lex hlex
  rw [parse_of_lex hlex, mapError_eq_ok_iff, readCall_eq_ok_iff hl] at h'
  rw [mapError_eq_ok_iff, readCall_eq_ok_iff hl] at h
  obtain ⟨key, value, element, rfl, hagrees⟩ := h.agrees h'
  exact ⟨value, ⟨_, key, element, hlex⟩, hagrees⟩

/-! ### Statements -/

/-- The action makes a call under both renderings, and the calls agree. -/
structure CallsAgree (render render' : List Char → List Char) (action : List Char) (value : Token)
    (call call' : Call) : Prop where
  parse_left : parse render action = .ok call
  parse_right : parse render' action = .ok call'
  isValueOf : IsValueOf action value
  agrees : call.AgreesBut render render' value call'

/-- An action compiles alike under two renderings. -/
inductive CompilesAlike (render render' : List Char → List Char) (action : List Char) : Prop
  /-- It fails in the same way. -/
  | failure (f : Failure) (left : compile render action = .error f)
      (right : compile render' action = .error f)
  /-- It says nothing. -/
  | blank (h : isBlank action = true) (left : compile render action = .ok [])
      (right : compile render' action = .ok [])
  /-- The calls agree, and so do their statements. -/
  | statement (value : Token) (call call' : Call) (a a' : Assignment)
      (calls : CallsAgree render render' action value call call') (agrees : a.AgreesBut value a')
      (isOf_left : a.IsOf call) (isOf_right : a'.IsOf call')
      (left : compile render action = .ok a.text) (right : compile render' action = .ok a'.text)

theorem compilesAlike (render render' : List Char → List Char) (action : List Char) :
    CompilesAlike render render' action := by
  by_cases hnil : lex action = .ok []
  · exact .blank (lex_eq_ok_nil_iff.1 hnil) (compile_of_lex_nil hnil) (compile_of_lex_nil hnil)
  · have hfailure := failure?_parse render render' action
    cases hparse : parse render action with
    | error f =>  -- the parser fails alike, whatever the rendering
      rw [hparse, failure?_error, eq_comm, failure?_eq_some_iff] at hfailure
      exact .failure f (compile_of_parse_eq_error hnil hparse)
        (compile_of_parse_eq_error hnil hfailure)
    | ok call =>
      rw [hparse, failure?_ok, eq_comm, failure?_eq_none_iff] at hfailure
      obtain ⟨call', hparse'⟩ := hfailure
      obtain ⟨value, hvalue, hagrees⟩ := exists_value_of_parse hparse hparse'
      obtain ⟨a, ha, -⟩ := exists_assignment_of_parse hparse
      obtain ⟨a', ha', -⟩ := exists_assignment_of_parse hparse'
      obtain ⟨st, hst, -, hcompile⟩ := compile_of_parse_eq_ok hnil hparse
      obtain ⟨st', hst', -, hcompile'⟩ := compile_of_parse_eq_ok hnil hparse'
      rw [ha.statement] at hst
      rw [ha'.statement] at hst'
      obtain rfl := Except.ok.inj hst
      obtain rfl := Except.ok.inj hst'
      exact .statement value call call' a a' ⟨hparse, hparse', hvalue, hagrees⟩
        (hagrees.assignment ha ha') ha ha' hcompile hcompile'

/-- What the action says under one rendering agrees with what it says under the other one. -/
structure StatementsAgree (render render' : List Char → List Char) (action : List Char)
    (a a' : Assignment) : Prop where
  left : a.IsOfAction render action
  right : a'.IsOfAction render' action
  agrees : ∃ value, IsValueOf action value ∧ a.AgreesBut value a'

lemma Assignment.IsOfAction.agrees {a a' : Assignment} (ha : a.IsOfAction render action)
    (ha' : a'.IsOfAction render' action) : StatementsAgree render render' action a a' := by
  obtain ⟨call, hcall, hof⟩ := ha
  obtain ⟨call', hcall', hof'⟩ := ha'
  obtain ⟨value, hvalue, hagrees⟩ := exists_value_of_parse hcall hcall'
  exact ⟨⟨call, hcall, hof⟩, ⟨call', hcall', hof'⟩, value, hvalue, hagrees.assignment hof hof'⟩

/-- The statements of a list of actions agree one by one. -/
theorem exists_forall₃_of_compileAll {actions : List (List Char)} {out out' : List Char}
    (h : compileAll render actions = .ok out) (h' : compileAll render' actions = .ok out') :
    ∃ as as' : List Assignment,
      Forall₃ (StatementsAgree render render') (actions.filter fun action => !isBlank action) as as' ∧
      out = Assignment.texts as ∧ out' = Assignment.texts as' := by
  obtain ⟨as, has, -, hout⟩ := exists_assignments_of_compileAll h
  obtain ⟨as', has', -, hout'⟩ := exists_assignments_of_compileAll h'
  exact ⟨as, as', .of_forall₂ has has' fun _ _ _ ha ha' => ha.agrees ha', hout, hout'⟩

end Action

end Adventure
