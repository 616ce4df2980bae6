import Adventure.Markdown.Render
import Adventure.Proofs.Action.Assignments

/-!
# Actions as authors write them

An author writes names and texts between quotes, with a backslash in front of every quote, and may
leave the quotes of a name away when it is an identifier. The statement of such an action has the
names and texts of the author, however they were written.

* `decodeEscapes_inLiteral` : a literal in a statement stands for the text of the author.
* `compile_callText` : the statement of a call as an author writes it.
-/

namespace Adventure.Action

open Number Text

variable {render : List Char → List Char}

/-! ### Texts between quotes -/

/-- The form of a character between the quotes of an action. -/
def escapeQuote : Char → List Char
  | '"' => ['\\', '"']
  | c   => [c]

/-- The literal that an author writes for a text. -/
def authorLiteral (text : List Char) : List Char :=
  '"' :: (text.flatMap escapeQuote ++ ['"'])

/-- The form that the text between the quotes takes in a statement. -/
def inLiteral (text : List Char) : List Char :=
  singleLine (text.flatMap escapeQuote)

/-- The text that `\"` and `\n` in a literal stand for. -/
def decodeEscapes : List Char → List Char
  | []                => []
  | '\\' :: '"' :: cs => '"' :: decodeEscapes cs
  | '\\' :: 'n' :: cs => '\n' :: decodeEscapes cs
  | c :: cs           => c :: decodeEscapes cs

lemma escapeQuote_of_ne {c : Char} (h : c ≠ '"') : escapeQuote c = [c] := by
  unfold escapeQuote
  split
  · exact absurd rfl h
  · rfl

/-- Without backslashes of its own, the text that an author writes is the body of a literal. -/
lemma literalBody_escapeQuote {text : List Char} (h : '\\' ∉ text) :
    LiteralBody (text.flatMap escapeQuote) := by
  induction text with
  | nil => exact .nil
  | cons c cs ih =>
    obtain ⟨hc, hcs⟩ := not_or.1 (mt List.mem_cons.2 h)
    rw [List.flatMap_cons]
    by_cases hq : c = '"'
    · subst hq
      exact .escape (ih hcs)
    · rw [escapeQuote_of_ne hq]
      exact .plain hq (Ne.symm hc) (ih hcs)

lemma escaped_inLiteral {text : List Char} (h : '\\' ∉ text) :
    Escaped nameEscapes (inLiteral text) :=
  escaped_singleLine (literalBody_escapeQuote h)

lemma inLiteral_cons (c : Char) (cs : List Char) :
    inLiteral (c :: cs) = singleLine (escapeQuote c) ++ inLiteral cs := by
  rw [inLiteral, List.flatMap_cons, singleLine_append]
  rfl

lemma singleLine_escapeQuote {c : Char} (hq : c ≠ '"') (hr : c ≠ '\r') (hn : c ≠ '\n') :
    singleLine (escapeQuote c) = [c] := by
  rw [escapeQuote_of_ne hq, singleLine_cons hr hn]
  rfl

/-- The literal in a statement stands for the text of the author, carriage returns left out. -/
theorem decodeEscapes_inLiteral {text : List Char} (h : '\\' ∉ text) :
    decodeEscapes (inLiteral text) = text.filter (· != '\r') := by
  induction text with
  | nil => rfl
  | cons c cs ih =>
    obtain ⟨hc, hcs⟩ := not_or.1 (mt List.mem_cons.2 h)
    rw [inLiteral_cons]
    by_cases hq : c = '"'
    · subst hq
      show '"' :: decodeEscapes (inLiteral cs) = _
      rw [ih hcs, List.filter_cons_of_pos (by decide)]
    by_cases hn : c = '\n'
    · subst hn
      show '\n' :: decodeEscapes (inLiteral cs) = _
      rw [ih hcs, List.filter_cons_of_pos (by decide)]
    by_cases hr : c = '\r'
    · subst hr
      show decodeEscapes (inLiteral cs) = _
      rw [ih hcs, List.filter_cons_of_neg (by decide)]
    · have hb : c ≠ '\\' := Ne.symm hc
      rw [singleLine_escapeQuote hq hr hn, List.singleton_append,
        decodeEscapes.eq_4 _ _ (fun _ h _ => hb h) (fun _ h _ => hb h), ih hcs,
        List.filter_cons_of_pos (by simpa using hr)]

/-- A word is the same with and without quotes. -/
lemma inLiteral_of_isAsciiWord {cs : List Char} (h : ∀ c ∈ cs, isAsciiWord c = true) :
    inLiteral cs = cs := by
  induction cs with
  | nil => rfl
  | cons c cs ih =>
    obtain ⟨hc, hcs⟩ := List.forall_mem_cons.1 h
    have hplain := not_mem_of_isAsciiWord hc
    simp only [List.mem_cons, List.not_mem_nil, or_false, not_or] at hplain
    obtain ⟨hq, -, hn, hr⟩ := hplain
    rw [inLiteral_cons, singleLine_escapeQuote hq hr hn, ih hcs, List.singleton_append]

/-! ### How authors write calls -/

/-- The ways to write a name: as a literal, or bare when it is an identifier and no keyword. -/
inductive IsSpelling (name : List Char) : List Char → Prop
  | quoted : IsSpelling name (authorLiteral name)
  | bare (h : IsIdentifier name) (hne : ∀ k : Keyword, name ≠ k.name.toList) : IsSpelling name name

/-- What an author gives as value. -/
inductive Argument where
  | integer (n : Int)
  | text (cs : List Char)

namespace Argument

/-- The function takes the value: an integer of 64 bits, not zero for `div`, or for `set` and `add`
a text without backslashes. -/
def Allowed (k : Keyword) : Argument → Prop
  | .integer n => minInt64 ≤ n ∧ n ≤ maxInt64 ∧ (k = .div → n ≠ 0)
  | .text cs   => (k = .set ∨ k = .add) ∧ '\\' ∉ cs

/-- The ways to write a value: any numeral of an integer, and the literal of a text. -/
inductive IsSpelling : Argument → List Char → Prop
  | integer {l : List Char} {n : Int} (h : Numeral l n) : IsSpelling (.integer n) l
  | text (cs : List Char) : IsSpelling (.text cs) (authorLiteral cs)

/-- The value of a statement stands for what the author gave: a canonical decimal for an integer,
and for a text a literal that is decoded to it, carriage returns left out. -/
def IsSaidBy : Argument → List Char → Prop
  | .integer n, l => l = (toString n).toList
  | .text cs,   l => ∃ body, Escaped nameEscapes body ∧ l = '"' :: (body ++ ['"']) ∧
      decodeEscapes body = cs.filter (· != '\r')

/-- The value as it stands in a statement. -/
def inStatement : Argument → List Char
  | .integer n => (toString n).toList
  | .text cs   => '"' :: (inLiteral cs ++ ['"'])

end Argument

/-- A call as an author writes it, `set` with the key in front and the other functions with the
value in front. White space may stand at its start, at its end and between any two of its parts. -/
def callText (gap : Nat → List Char) (k : Keyword) (key value element : List Char) : List Char :=
  let (first, second) := if k = .set then (key, value) else (value, key)
  gap 0 ++ k.name.toList ++ gap 1 ++ ['('] ++ gap 2 ++ first ++ gap 3 ++ [','] ++ gap 4 ++ second ++
    gap 5 ++ [','] ++ gap 6 ++ element ++ gap 7 ++ [')'] ++ gap 8

/-- The call that an author writes is the row of its tokens with gaps between them. -/
lemma spaced_callTokens (gap : Nat → List Char) (k : Keyword) (key value element : Token) :
    spaced gap (callTokens k key value element) =
      callText gap k key.lexeme value.lexeme element.lexeme := by
  cases k <;> simp [spaced, callTokens, callForm, callText, Token.ofKeyword, Token.oparen,
    Token.comma, Token.cparen]

/-! ### What the parts of a call say -/

/-- However a name is written, it is a token that says the name. -/
lemma IsSpelling.exists_token {name l : List Char} (h : IsSpelling name l) (hname : '\\' ∉ name) :
    ∃ t : Token, t.lexeme = l ∧ t.IsLexeme ∧
      ∃ x, t.IsName x ∧ unquote x = some (inLiteral name) := by
  cases h with
  | quoted =>
    have hbody := literalBody_escapeQuote hname
    refine ⟨⟨.string, authorLiteral name⟩, rfl, ⟨⟨_, hbody, rfl⟩, by simp⟩, _, .string _, ?_⟩
    rw [authorLiteral, singleLine_quoted, unquote_quoted (escaped_singleLine hbody)]
    rfl
  | bare h hne =>
    refine ⟨⟨.identifier, name⟩, rfl, ⟨h, fun _ => hne⟩, name, .identifier name, ?_⟩
    rw [unquote_identifier h, inLiteral_of_isAsciiWord h.isAsciiWord]

/-- However a value is written, it is a token that says the value. -/
lemma Argument.IsSpelling.exists_token (render : List Char → List Char) {k : Keyword}
    {v : Argument} {l : List Char} (h : v.IsSpelling l) (hv : v.Allowed k) :
    ∃ t : Token, t.lexeme = l ∧ t.IsLexeme ∧ ∃ op : Operation, op.keyword = k ∧
      t.IsOperand render op ∧ op.value.render = v.inStatement := by
  cases h with
  | @integer l n h =>
    obtain ⟨hmin, hmax, hzero⟩ := hv
    have hint : Token.IsInteger ⟨.integer, l⟩ n := .mk h hmin hmax
    refine ⟨⟨.integer, l⟩, rfl, ⟨⟨n, h⟩, by simp⟩, ?_⟩
    cases k with
    | set => exact ⟨.set (.integer n), rfl, .set (.integer hint), rfl⟩
    | add => exact ⟨.add (.integer n), rfl, .add (.integer hint), rfl⟩
    | sub => exact ⟨.sub n, rfl, .sub hint, rfl⟩
    | mul => exact ⟨.mul n, rfl, .mul hint, rfl⟩
    | div => exact ⟨.div n (hzero rfl), rfl, .div hint (hzero rfl), rfl⟩
  | text cs =>
    obtain ⟨hk, hcs⟩ := hv
    have hvalue : Token.IsValue render ⟨.string, authorLiteral cs⟩
        (.text (singleLine (authorLiteral cs))) := .string _
    have hrender : singleLine (authorLiteral cs) = (Argument.text cs).inStatement := by
      rw [authorLiteral, singleLine_quoted]
      rfl
    refine ⟨⟨.string, authorLiteral cs⟩, rfl, ⟨⟨_, literalBody_escapeQuote hcs, rfl⟩, by simp⟩, ?_⟩
    rcases hk with rfl | rfl
    · exact ⟨_, rfl, .set hvalue, hrender⟩
    · exact ⟨_, rfl, .add hvalue, hrender⟩

lemma Argument.isSaidBy_inStatement {k : Keyword} {v : Argument} (hv : v.Allowed k) :
    v.IsSaidBy v.inStatement := by
  cases v with
  | integer n => rfl
  | text cs =>
    obtain ⟨-, hcs⟩ := hv
    exact ⟨_, escaped_inLiteral hcs, rfl, decodeEscapes_inLiteral hcs⟩

lemma Argument.isValueText_inStatement {k : Keyword} {v : Argument} (hv : v.Allowed k) :
    IsValueText v.inStatement := by
  cases v with
  | integer n => exact .integer n
  | text cs =>
    obtain ⟨-, hcs⟩ := hv
    exact .literal ((escaped_inLiteral hcs).mono nameEscapes_subset_valueEscapes)

/-! ### The statement of a call -/

lemma significant_callTokens {k : Keyword} {key value element : Token}
    (hk : ∀ t ∈ [key, value, element], t.kind ≠ .whitespace) :
    significant (callTokens k key value element) = callTokens k key value element := by
  simp only [List.forall_mem_cons] at hk
  obtain ⟨hkey, hvalue, helement, -⟩ := hk
  cases k <;>
    simp [callTokens, callForm, significant, Token.isSignificant, Token.ofKeyword, Token.oparen,
      Token.comma, Token.cparen, hkey, hvalue, helement]

lemma IsCall.significant_eq {ts : List Token} {call : Call} (h : IsCall render ts call) :
    significant ts = ts := by
  obtain ⟨key, value, element, rfl, hkey, hvalue, helement⟩ := h
  apply significant_callTokens
  simp [hkey.kind_ne, hvalue.kind_ne, helement.kind_ne]

/-- A call with white space at any of its boundaries has the statement of the call. -/
lemma compile_spaced {gap : Nat → List Char} (hgap : ∀ n, ∀ c ∈ gap n, isSpace c = true)
    {ts : List Token} {call : Call} {a : Assignment} (hlexed : Lexed ts)
    (h : IsCall render ts call) (ha : a.IsOf call) :
    compile render (spaced gap ts) = .ok a.text := by
  obtain ⟨ts', hts', hconcat⟩ := exists_respaced hgap hlexed
  have htok : tokenize (spaced gap ts) = .ok ts' := tokenize_eq_ok_iff.2 ⟨hconcat, hts'.lexed⟩
  have hread := readCall_of_isCall h
  have hne : ts ≠ [] := by
    rintro rfl
    exact absurd hread throw_ne_ok
  rw [compile_of_tokenize htok, hts'.significant_eq, h.significant_eq, mapError_eq_ok_iff,
    compileTokens_eq_ok_iff]
  exact .inr ⟨call, hne, hread, ha.statement⟩

/-- A call whose names are written with or without quotes, and whose value is any that the function
takes, has a statement. The statement does not depend on how the parts were written and on the white
space between them, and it says what the author gave. -/
theorem compile_callText (render : List Char → List Char) (k : Keyword) {key element : List Char}
    {value : Argument} (hkey : '\\' ∉ key) (helement : '\\' ∉ element) (hvalue : value.Allowed k) :
    ∃ a : Assignment, a.WellFormed ∧ a.function = k ∧
      decodeEscapes a.key = key.filter (· != '\r') ∧
      decodeEscapes a.element = element.filter (· != '\r') ∧ value.IsSaidBy a.value ∧
      ∀ (gap : Nat → List Char) (keyText valueText elementText : List Char),
        (∀ n, ∀ c ∈ gap n, isSpace c = true) → IsSpelling key keyText →
          value.IsSpelling valueText → IsSpelling element elementText →
            compile render (callText gap k keyText valueText elementText) = .ok a.text := by
  have hwf : Assignment.WellFormed ⟨inLiteral element, inLiteral key, k, value.inStatement⟩ :=
    ⟨escaped_inLiteral helement, escaped_inLiteral hkey, Argument.isValueText_inStatement hvalue⟩
  refine ⟨_, hwf, rfl, decodeEscapes_inLiteral hkey, decodeEscapes_inLiteral helement,
    Argument.isSaidBy_inStatement hvalue, ?_⟩
  intro gap keyText valueText elementText hgap hk hv he
  obtain ⟨tk, rfl, lk, x, hx, hxk⟩ := hk.exists_token hkey
  obtain ⟨tv, rfl, lv, op, rfl, hop, hopv⟩ := hv.exists_token render hvalue
  obtain ⟨te, rfl, le, y, hy, hye⟩ := he.exists_token helement
  have hlexed : Lexed (callTokens op.keyword tk tv te) :=
    lexed_callTokens (by simp [lk, lv, le]) (by simp [hx.kind_ne, hop.kind_ne, hy.kind_ne])
  have hcall : IsCall render (callTokens op.keyword tk tv te) ⟨x, y, op⟩ :=
    ⟨tk, tv, te, rfl, hx, hop, hy⟩
  rw [← spaced_callTokens]
  exact compile_spaced hgap hlexed hcall ⟨hye, hxk, rfl, hopv.symm⟩

/-- The name of a mill, bare and between quotes, in a call with quotes and marks in its texts. -/
theorem compile_callText_mill :
    ∃ a : Assignment, decodeEscapes a.key = "say \"hi\"".toList ∧
      decodeEscapes a.element = "mill".toList ∧
      compile (Markdown.render {}) "set(\"say \\\"hi\\\"\",\"a, (b)\",mill)".toList = .ok a.text ∧
      compile (Markdown.render {}) "set(\"say \\\"hi\\\"\",\"a, (b)\",\"mill\")".toList =
        .ok a.text := by
  have hkey : '\\' ∉ "say \"hi\"".toList := by decide
  have helement : '\\' ∉ "mill".toList := by decide
  have hvalue : (Argument.text "a, (b)".toList).Allowed .set := ⟨.inl rfl, by decide⟩
  have hbare : IsSpelling "mill".toList "mill".toList := by
    refine .bare ⟨'m', "ill".toList, rfl, by decide, List.all_eq_true.1 (by decide)⟩ fun k => ?_
    cases k <;> decide
  obtain ⟨a, -, -, hk, he, -, hcompile⟩ :=
    compile_callText (Markdown.render {}) .set hkey helement hvalue
  have hspelled : ∀ l, IsSpelling "mill".toList l → compile (Markdown.render {})
      (callText (fun _ => []) .set (authorLiteral "say \"hi\"".toList)
        (authorLiteral "a, (b)".toList) l) = .ok a.text :=
    fun l hl => hcompile _ _ _ l (by simp) .quoted (.text _) hl
  exact ⟨a, hk, he, hspelled _ hbare, hspelled _ .quoted⟩

end Adventure.Action
