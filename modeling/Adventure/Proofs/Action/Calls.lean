import Adventure.Action.Statement
import Adventure.Proofs.Action.Tokens
import Adventure.Proofs.Computation

/-!
# The calls that the grammar accepts

Which tokens are a call, and what the call says, stated without the parser: a call has one form for
each keyword, `set` with the key in front and the other functions with the value in front.

* `readCall_eq_ok_iff` : the parser accepts exactly these tokens.
* `parse_eq_ok_iff` : the same for texts.
-/

namespace Adventure.Action

open Number

variable {render : List Char → List Char}

/-! ### What a token says -/

/-- The token names something: a string literal, kept with its quotes, or an identifier. -/
inductive Token.IsName : Token → List Char → Prop
  | string (l : List Char) : IsName ⟨.string, l⟩ (singleLine l)
  | identifier (l : List Char) : IsName ⟨.identifier, l⟩ l

/-- The token is an integer of 64 bits. -/
inductive Token.IsInteger : Token → Int → Prop
  | mk {l : List Char} {n : Int} (h : Numeral l n) (hmin : minInt64 ≤ n) (hmax : n ≤ maxInt64) :
      IsInteger ⟨.integer, l⟩ n

/-- The token is a value: an integer, a Markdown literal or a string literal. -/
inductive Token.IsValue (render : List Char → List Char) : Token → Value → Prop
  | integer {t : Token} {n : Int} (h : t.IsInteger n) : IsValue render t (.integer n)
  | mdString (l : List Char) :
      IsValue render ⟨.mdString, l⟩ (.text (quote (render (mdInterior l))))
  | string (l : List Char) : IsValue render ⟨.string, l⟩ (.text (singleLine l))

/-- The token is the value of the operation: any value for `set` and `add`, an integer for the other
functions, and not zero for `div`. -/
inductive Token.IsOperand (render : List Char → List Char) : Token → Operation → Prop
  | set {t : Token} {v : Value} (h : t.IsValue render v) : IsOperand render t (.set v)
  | add {t : Token} {v : Value} (h : t.IsValue render v) : IsOperand render t (.add v)
  | sub {t : Token} {n : Int} (h : t.IsInteger n) : IsOperand render t (.sub n)
  | mul {t : Token} {n : Int} (h : t.IsInteger n) : IsOperand render t (.mul n)
  | div {t : Token} {n : Int} (h : t.IsInteger n) (hn : n ≠ 0) : IsOperand render t (.div n hn)

/-! ### The form of a call -/

namespace Token

/-- The token of a keyword. -/
def ofKeyword (k : Keyword) : Token := ⟨.keyword k, k.name.toList⟩

def oparen : Token := ⟨.oparen, ['(']⟩

def cparen : Token := ⟨.cparen, [')']⟩

def comma : Token := ⟨.comma, [',']⟩

end Token

/-- A keyword and three arguments in parentheses. -/
def callForm (k : Keyword) (first second third : Token) : List Token :=
  [.ofKeyword k, .oparen, first, .comma, second, .comma, third, .cparen]

/-- The tokens of a call, the arguments in the order in which authors write them. -/
def callTokens : Keyword → (key value element : Token) → List Token
  | .set, key, value, element => callForm .set key value element
  | k,    key, value, element => callForm k value key element

lemma mem_callTokens (k : Keyword) {key value element t : Token} (h : t ∈ [key, value, element]) :
    t ∈ callTokens k key value element := by
  simp only [List.mem_cons, List.not_mem_nil, or_false] at h
  rcases h with rfl | rfl | rfl <;> cases k <;> simp [callTokens, callForm]

/-- The tokens are a call of the form of its keyword, and say what the call says. -/
def IsCall (render : List Char → List Char) (ts : List Token) (c : Call) : Prop :=
  ∃ key value element : Token, ts = callTokens c.operation.keyword key value element ∧
    key.IsName c.key ∧ value.IsOperand render c.operation ∧ element.IsName c.element

/-! ### What the readers accept -/

/-- A token is read if it is of the expected kind, and only this token is used up. -/
lemma readToken_eq_ok_iff {k : TokenKind} {ts r : List Token} {t : Token} :
    readToken k ts = .ok (t, r) ↔ ts = t :: r ∧ t.kind = k := by
  cases ts with
  | nil => simp [readToken]
  | cons a ts =>
    rw [readToken]
    split_ifs with h
    · simp only [Except.ok.injEq, Prod.mk.injEq, List.cons.injEq]
      constructor
      · rintro ⟨rfl, rfl⟩
        exact ⟨⟨rfl, rfl⟩, h⟩
      · rintro ⟨⟨rfl, rfl⟩, -⟩
        exact ⟨rfl, rfl⟩
    · simp only [false_iff, List.cons.injEq]
      rintro ⟨⟨rfl, rfl⟩, rfl⟩
      exact h rfl

lemma skipToken_eq_ok_iff {k : TokenKind} {ts r : List Token} :
    skipToken k ts = .ok r ↔ ∃ t, ts = t :: r ∧ t.kind = k := by
  simp only [skipToken, bind_eq_ok_iff, Prod.exists, readToken_eq_ok_iff, pure_eq_ok_iff]
  constructor
  · rintro ⟨t, r, ⟨rfl, hk⟩, rfl⟩
    exact ⟨t, rfl, hk⟩
  · rintro ⟨t, rfl, hk⟩
    exact ⟨t, r, ⟨rfl, hk⟩, rfl⟩

lemma readString_eq_ok_iff {ts r : List Token} {x : List Char} :
    readString ts = .ok (x, r) ↔ ∃ l, ts = ⟨.string, l⟩ :: r ∧ x = singleLine l := by
  simp only [readString, bind_eq_ok_iff, Prod.exists, readToken_eq_ok_iff, pure_eq_ok_iff,
    Prod.mk.injEq]
  constructor
  · rintro ⟨⟨k, l⟩, r, ⟨rfl, rfl⟩, rfl, rfl⟩
    exact ⟨l, rfl, rfl⟩
  · rintro ⟨l, rfl, rfl⟩
    exact ⟨⟨.string, l⟩, r, ⟨rfl, rfl⟩, rfl, rfl⟩

/-- A name is read from one token, a string literal or an identifier. -/
lemma readName_eq_ok_iff {ts r : List Token} {x : List Char} :
    readName ts = .ok (x, r) ↔ ∃ t : Token, ts = t :: r ∧ t.IsName x := by
  constructor
  · intro h
    unfold readName at h
    split at h
    · obtain ⟨l, hts, rfl⟩ := readString_eq_ok_iff.1 h
      exact ⟨_, hts, .string l⟩
    · simp only [bind_eq_ok_iff, Prod.exists, readToken_eq_ok_iff, pure_eq_ok_iff,
        Prod.mk.injEq] at h
      obtain ⟨⟨k, l⟩, r, ⟨rfl, rfl⟩, rfl, rfl⟩ := h
      exact ⟨_, rfl, .identifier l⟩
  · rintro ⟨t, rfl, l | l⟩
    · exact readString_eq_ok_iff.2 ⟨l, rfl, rfl⟩
    · rfl

/-- An integer is read from one token if it fits into 64 bits. -/
lemma readInteger_eq_ok_iff {ts r : List Token} {n : Int} :
    Action.readInteger ts = .ok (n, r) ↔ ∃ t : Token, ts = t :: r ∧ t.IsInteger n := by
  constructor
  · intro h
    simp only [Action.readInteger, bind_eq_ok_iff, Prod.exists, readToken_eq_ok_iff] at h
    obtain ⟨⟨k, l⟩, r, ⟨rfl, rfl⟩, h⟩ := h
    split at h
    · next m hm =>
      obtain ⟨rfl, rfl⟩ := Prod.mk.inj (pure_eq_ok_iff.1 h)
      obtain ⟨hnum, hmin, hmax⟩ := readInt64_eq_some_iff.1 hm
      exact ⟨_, rfl, .mk hnum hmin hmax⟩
    · exact absurd h throw_ne_ok
  · rintro ⟨t, rfl, ⟨hnum, hmin, hmax⟩⟩
    simp only [Action.readInteger, bind_eq_ok_iff, Prod.exists, readToken_eq_ok_iff]
    refine ⟨_, r, ⟨rfl, rfl⟩, ?_⟩
    rw [readInt64_eq_some_iff.2 ⟨hnum, hmin, hmax⟩]
    rfl

lemma readDivisor_eq_ok_iff {ts r : List Token} {n : { n : Int // n ≠ 0 }} :
    readDivisor ts = .ok (n, r) ↔ ∃ t : Token, ts = t :: r ∧ t.IsInteger n := by
  simp only [readDivisor, bind_eq_ok_iff, Prod.exists, readInteger_eq_ok_iff]
  constructor
  · rintro ⟨m, r, ⟨t, rfl, ht⟩, h⟩
    split_ifs at h with hm
    obtain ⟨rfl, rfl⟩ := Prod.mk.inj (pure_eq_ok_iff.1 h)
    exact ⟨t, rfl, ht⟩
  · rintro ⟨t, rfl, ht⟩
    refine ⟨n, r, ⟨t, rfl, ht⟩, ?_⟩
    rw [dif_neg n.2]
    rfl

/-- A value is read from one token, of one of the three kinds that values have. -/
lemma readValue_eq_ok_iff {ts r : List Token} {v : Value} :
    readValue render ts = .ok (v, r) ↔ ∃ t : Token, ts = t :: r ∧ t.IsValue render v := by
  constructor
  · intro h
    unfold readValue at h
    split at h
    · simp only [bind_eq_ok_iff, Prod.exists, readInteger_eq_ok_iff, pure_eq_ok_iff,
        Prod.mk.injEq] at h
      obtain ⟨n, r, ⟨t, hts, ht⟩, rfl, rfl⟩ := h
      exact ⟨t, hts, .integer ht⟩
    · obtain ⟨rfl, rfl⟩ := Prod.mk.inj (pure_eq_ok_iff.1 h)
      exact ⟨_, rfl, .mdString _⟩
    · simp only [bind_eq_ok_iff, Prod.exists, readString_eq_ok_iff, pure_eq_ok_iff,
        Prod.mk.injEq] at h
      obtain ⟨x, r, ⟨l, rfl, rfl⟩, rfl, rfl⟩ := h
      exact ⟨_, rfl, .string l⟩
  · rintro ⟨t, rfl, ht | l | l⟩
    · obtain ⟨l, rfl⟩ : ∃ l, t = ⟨.integer, l⟩ := by cases ht; exact ⟨_, rfl⟩
      simp only [readValue, bind_eq_ok_iff, Prod.exists, readInteger_eq_ok_iff]
      exact ⟨_, r, ⟨_, rfl, ht⟩, rfl⟩
    · rfl
    · rfl

lemma readKeyAndElement_eq_ok_iff {ts r : List Token} {key element : List Char} :
    readKeyAndElement ts = .ok ((key, element), r) ↔
      ∃ c k c' e p : Token, ts = c :: k :: c' :: e :: p :: r ∧ k.IsName key ∧ e.IsName element ∧
        c.kind = .comma ∧ c'.kind = .comma ∧ p.kind = .cparen := by
  simp only [readKeyAndElement, bind_eq_ok_iff, Prod.exists, skipToken_eq_ok_iff,
    readName_eq_ok_iff, pure_eq_ok_iff, Prod.mk.injEq]
  constructor
  · rintro ⟨_, ⟨c, rfl, hc⟩, _, _, ⟨k, rfl, hk⟩, _, ⟨c', rfl, hc'⟩, _, _, ⟨e, rfl, he⟩, _,
      ⟨p, rfl, hp⟩, ⟨rfl, rfl⟩, rfl⟩
    exact ⟨c, k, c', e, p, rfl, hk, he, hc, hc', hp⟩
  · rintro ⟨c, k, c', e, p, rfl, hk, he, hc, hc', hp⟩
    exact ⟨_, ⟨c, rfl, hc⟩, _, _, ⟨k, rfl, hk⟩, _, ⟨c', rfl, hc'⟩, _, _, ⟨e, rfl, he⟩, _,
      ⟨p, rfl, hp⟩, ⟨rfl, rfl⟩, rfl⟩

/-- The arguments of a call whose value comes first are read if every token is what the place asks
for. The value may be whatever its reader takes. -/
lemma readValueFirst_eq_ok_iff {α : Type} {value : Reader α} {means : Token → α → Prop}
    (hvalue : ∀ ts r x, value ts = .ok (x, r) ↔ ∃ t, ts = t :: r ∧ means t x)
    {operation : α → Operation} {ts r : List Token} {call : Call} :
    readValueFirst value operation ts = .ok (call, r) ↔
      ∃ o v c k c' e p : Token, ts = o :: v :: c :: k :: c' :: e :: p :: r ∧
        (∃ x, means v x ∧ call.operation = operation x) ∧ k.IsName call.key ∧
        e.IsName call.element ∧
        o.kind = .oparen ∧ c.kind = .comma ∧ c'.kind = .comma ∧ p.kind = .cparen := by
  simp only [readValueFirst, bind_eq_ok_iff, Prod.exists, skipToken_eq_ok_iff, hvalue,
    readKeyAndElement_eq_ok_iff, pure_eq_ok_iff, Prod.mk.injEq]
  constructor
  · rintro ⟨_, ⟨o, rfl, ho⟩, x, _, ⟨v, rfl, hv⟩, key, element, _,
      ⟨c, k, c', e, p, rfl, hk, he, hc, hc', hp⟩, rfl, rfl⟩
    exact ⟨o, v, c, k, c', e, p, rfl, ⟨x, hv, rfl⟩, hk, he, ho, hc, hc', hp⟩
  · rintro ⟨o, v, c, k, c', e, p, rfl, ⟨x, hv, hx⟩, hk, he, ho, hc, hc', hp⟩
    refine ⟨_, ⟨o, rfl, ho⟩, x, _, ⟨v, rfl, hv⟩, _, _, _,
      ⟨c, k, c', e, p, rfl, hk, he, hc, hc', hp⟩, ?_, rfl⟩
    rw [← hx]

/-- The arguments of `set` are read if every token is what the place asks for. -/
lemma readKeyFirst_eq_ok_iff {ts r : List Token} {call : Call} :
    readKeyFirst render ts = .ok (call, r) ↔
      ∃ o k c v c' e p : Token, ts = o :: k :: c :: v :: c' :: e :: p :: r ∧
        (∃ x, v.IsValue render x ∧ call.operation = .set x) ∧ k.IsName call.key ∧
        e.IsName call.element ∧
        o.kind = .oparen ∧ c.kind = .comma ∧ c'.kind = .comma ∧ p.kind = .cparen := by
  simp only [readKeyFirst, bind_eq_ok_iff, Prod.exists, skipToken_eq_ok_iff,
    readName_eq_ok_iff, readValue_eq_ok_iff, pure_eq_ok_iff, Prod.mk.injEq]
  constructor
  · rintro ⟨_, ⟨o, rfl, ho⟩, key, _, ⟨k, rfl, hk⟩, _, ⟨c, rfl, hc⟩, x, _, ⟨v, rfl, hv⟩, _,
      ⟨c', rfl, hc'⟩, element, _, ⟨e, rfl, he⟩, _, ⟨p, rfl, hp⟩, rfl, rfl⟩
    exact ⟨o, k, c, v, c', e, p, rfl, ⟨x, hv, rfl⟩, hk, he, ho, hc, hc', hp⟩
  · rintro ⟨o, k, c, v, c', e, p, rfl, ⟨x, hv, hx⟩, hk, he, ho, hc, hc', hp⟩
    refine ⟨_, ⟨o, rfl, ho⟩, _, _, ⟨k, rfl, hk⟩, _, ⟨c, rfl, hc⟩, x, _, ⟨v, rfl, hv⟩, _,
      ⟨c', rfl, hc'⟩, _, _, ⟨e, rfl, he⟩, _, ⟨p, rfl, hp⟩, ?_, rfl⟩
    rw [← hx]

/-! ### The parser accepts exactly the calls -/

lemma Token.isOperand_iff {t : Token} {op : Operation} :
    t.IsOperand render op ↔
      match op with
      | .set v | .add v            => t.IsValue render v
      | .sub n | .mul n | .div n _ => t.IsInteger n := by
  constructor
  · rintro (h | h | h | h | ⟨h, -⟩) <;> exact h
  · intro h
    cases op with
    | set v => exact .set h
    | add v => exact .add h
    | sub n => exact .sub h
    | mul n => exact .mul h
    | div n hn => exact .div h hn

/-- The arguments of every function but `set` are the value, the key and the element. -/
lemma readArguments_eq_ok_iff {k : Keyword} (hk : k ≠ .set) {ts r : List Token} {call : Call} :
    readArguments render k ts = .ok (call, r) ↔
      ∃ o v c key c' e p : Token, ts = o :: v :: c :: key :: c' :: e :: p :: r ∧
        (v.IsOperand render call.operation ∧ call.operation.keyword = k) ∧
        key.IsName call.key ∧ e.IsName call.element ∧
        o.kind = .oparen ∧ c.kind = .comma ∧ c'.kind = .comma ∧ p.kind = .cparen := by
  cases k with
  | set => exact absurd rfl hk
  | add =>
    rw [readArguments, readValueFirst_eq_ok_iff fun _ _ _ => readValue_eq_ok_iff]
    cases call.operation <;> simp [Token.isOperand_iff, Operation.keyword]
  | sub =>
    rw [readArguments, readValueFirst_eq_ok_iff fun _ _ _ => readInteger_eq_ok_iff]
    cases call.operation <;> simp [Token.isOperand_iff, Operation.keyword]
  | mul =>
    rw [readArguments, readValueFirst_eq_ok_iff fun _ _ _ => readInteger_eq_ok_iff]
    cases call.operation <;> simp [Token.isOperand_iff, Operation.keyword]
  | div =>
    rw [readArguments, readValueFirst_eq_ok_iff fun _ _ _ => readDivisor_eq_ok_iff]
    cases call.operation with
    | div n hn => simp [Token.isOperand_iff, Operation.keyword, hn]
    | _ => simp [Token.isOperand_iff, Operation.keyword]

/-- A call consists of a keyword and of arguments that use up all other tokens. -/
lemma readCall_eq_ok_iff_arguments {ts : List Token} {call : Call} :
    readCall render ts = .ok call ↔
      ∃ t r k, ts = t :: r ∧ t.kind = .keyword k ∧ readArguments render k r = .ok (call, []) := by
  cases ts with
  | nil => simp [readCall, throw_ne_ok]
  | cons t r =>
    rw [readCall]
    split
    · next k hk =>
      simp only [bind_eq_ok_iff, Prod.exists]
      constructor
      · rintro ⟨call', r', hargs, h⟩
        cases r' with
        | nil =>
          obtain rfl := pure_eq_ok_iff.1 h
          exact ⟨t, r, k, rfl, hk, hargs⟩
        | cons t' r' => exact absurd h throw_ne_ok
      · rintro ⟨t', r', k', hts, hk', hargs⟩
        obtain ⟨rfl, rfl⟩ := List.cons.inj hts
        obtain rfl := TokenKind.keyword.inj (hk.symm.trans hk')
        exact ⟨call, [], hargs, rfl⟩
    · next hk =>
      constructor
      · intro h
        exact absurd h throw_ne_ok
      · rintro ⟨t', r', k, hts, hk', -⟩
        obtain ⟨rfl, rfl⟩ := List.cons.inj hts
        exact absurd hk' (hk k)

/-- Of the kinds with one lexeme there is one token each. -/
lemma callForm_of_kinds {k : Keyword} {t o a c b c' e p : Token}
    (hl : ∀ x ∈ [t, o, a, c, b, c', e, p], x.IsLexeme) (ht : t.kind = .keyword k)
    (ho : o.kind = .oparen) (hc : c.kind = .comma) (hc' : c'.kind = .comma)
    (hp : p.kind = .cparen) : [t, o, a, c, b, c', e, p] = callForm k a b e := by
  have hlexeme : ∀ {x y : Token}, x.IsLexeme → x.kind = y.kind →
      (∀ l, y.kind.Matches l → l = y.lexeme) → x = y := by
    rintro ⟨k, l⟩ ⟨k', l'⟩ hx rfl hy
    rw [show l = l' from hy l hx.matchesKind]
  simp only [List.forall_mem_cons] at hl
  obtain ⟨lt, lo, -, lc, -, lc', -, lp, -⟩ := hl
  rw [callForm, hlexeme (y := .ofKeyword k) lt ht fun _ h => h,
    hlexeme (y := .oparen) lo ho fun _ h => h, hlexeme (y := .comma) lc hc fun _ h => h,
    hlexeme (y := .comma) lc' hc' fun _ h => h, hlexeme (y := .cparen) lp hp fun _ h => h]

/-- What is read as a call has the form of a call and says the same. -/
lemma isCall_of_readCall {ts : List Token} {call : Call} (hl : ∀ t ∈ ts, t.IsLexeme)
    (h : readCall render ts = .ok call) : IsCall render ts call := by
  obtain ⟨t, r, k, rfl, hk, hargs⟩ := readCall_eq_ok_iff_arguments.1 h
  by_cases hset : k = .set
  · subst hset
    obtain ⟨o, key, c, v, c', e, p, rfl, ⟨x, hv, hx⟩, hkey, he, ho, hc, hc', hp⟩ :=
      readKeyFirst_eq_ok_iff.1 hargs
    refine ⟨key, v, e, ?_, hkey, hx ▸ .set hv, he⟩
    rw [hx]
    exact callForm_of_kinds hl hk ho hc hc' hp
  · obtain ⟨o, v, c, key, c', e, p, rfl, ⟨hv, hkw⟩, hkey, he, ho, hc, hc', hp⟩ :=
      (readArguments_eq_ok_iff hset).1 hargs
    refine ⟨key, v, e, ?_, hkey, hv, he⟩
    rw [hkw]
    cases k with
    | set => exact absurd rfl hset
    | _ => exact callForm_of_kinds hl hk ho hc hc' hp

lemma readCall_of_isCall {ts : List Token} {call : Call} (h : IsCall render ts call) :
    readCall render ts = .ok call := by
  obtain ⟨key, v, e, rfl, hkey, hv, he⟩ := h
  rw [readCall_eq_ok_iff_arguments]
  by_cases hset : call.operation.keyword = .set
  · -- `set` is the only function with its key in front.
    obtain ⟨x, hx⟩ : ∃ x, call.operation = .set x := by
      cases hop : call.operation <;> simp [hop, Operation.keyword] at hset
      exact ⟨_, rfl⟩
    rw [hx] at hv ⊢
    cases hv with
    | set hv =>
      exact ⟨_, _, .set, rfl, rfl, readKeyFirst_eq_ok_iff.2
        ⟨.oparen, key, .comma, v, .comma, e, .cparen, rfl, ⟨x, hv, hx⟩, hkey, he,
          rfl, rfl, rfl, rfl⟩⟩
  · refine ⟨.ofKeyword call.operation.keyword, _, _, ?_, rfl, (readArguments_eq_ok_iff hset).2
      ⟨.oparen, v, .comma, key, .comma, e, .cparen, rfl, ⟨hv, rfl⟩, hkey, he,
        rfl, rfl, rfl, rfl⟩⟩
    generalize call.operation.keyword = k at hset
    cases k with
    | set => exact absurd rfl hset
    | _ => rfl

/-- Of tokens that the lexer can produce, the parser accepts exactly the calls. -/
theorem readCall_eq_ok_iff {ts : List Token} (hl : ∀ t ∈ ts, t.IsLexeme) {call : Call} :
    readCall render ts = .ok call ↔ IsCall render ts call :=
  ⟨isCall_of_readCall hl, readCall_of_isCall⟩

/-! ### Texts of calls -/

lemma mem_significant {t : Token} {ts : List Token} :
    t ∈ significant ts ↔ t ∈ ts ∧ t.kind ≠ .whitespace := by
  simp [significant, Token.isSignificant]

lemma Lexed.isLexeme_of_mem_significant {ts : List Token} (h : Lexed ts) :
    ∀ t ∈ significant ts, t.IsLexeme :=
  fun t ht => h.isLexeme t (mem_significant.1 ht).1

lemma lex_of_tokenize {action : List Char} {ts : List Token} (h : tokenize action = .ok ts) :
    lex action = .ok (significant ts) := by
  rw [lex, h]

lemma lex_eq_ok_iff {action : List Char} {ss : List Token} :
    lex action = .ok ss ↔ ∃ ts, tokenize action = .ok ts ∧ significant ts = ss := by
  unfold lex
  split
  · next ts h => simp [h]
  · next h => simp [h]

/-- The parser accepts an action exactly when its tokens, white space left out, are a call, and
returns what the call says. -/
theorem parse_eq_ok_iff (render : List Char → List Char) (action : List Char) (call : Call) :
    parse render action = .ok call ↔
      ∃ ts, tokenize action = .ok ts ∧ IsCall render (significant ts) call := by
  simp only [parse, bind_eq_ok_iff, lex_eq_ok_iff, mapError_eq_ok_iff]
  constructor
  · rintro ⟨_, ⟨ts, hts, rfl⟩, h⟩
    have hlexed := (tokenize_eq_ok_iff.1 hts).2
    exact ⟨ts, hts, (readCall_eq_ok_iff hlexed.isLexeme_of_mem_significant).1 h⟩
  · rintro ⟨ts, hts, h⟩
    exact ⟨_, ⟨ts, hts, rfl⟩, readCall_of_isCall h⟩

end Adventure.Action
