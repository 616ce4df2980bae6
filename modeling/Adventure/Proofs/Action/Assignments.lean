import Adventure.Proofs.Action.Literals
import Adventure.Proofs.Action.Spacing

/-!
# The statements of a list of actions

The compiled form of a list of actions is a row of assignments, and nothing in a name, in a value or
in rendered HTML can end an assignment or start another one.

* `readAssignments_texts` : a reader that goes from left to right finds the assignments again.
* `compileAll_segments` : the assignments of a list of actions are those of its actions.
-/

namespace Adventure.Action

open Number

variable {render : List Char → List Char}

/-! ### Assignments -/

/-- The text of a value: the canonical decimal of an integer, or a literal. -/
inductive IsValueText : List Char → Prop
  | integer (n : Int) : IsValueText (toString n).toList
  | literal {body : List Char} (h : Escaped valueEscapes body) :
      IsValueText ('"' :: (body ++ ['"']))

/-- A statement taken apart: the operator of a function changes the property `key` of `element` by a
value. The parts are as they stand in the statement, the names without their quotes. -/
structure Assignment where
  element : List Char
  key : List Char
  function : Keyword
  value : List Char
  deriving DecidableEq, Repr

namespace Assignment

def text (a : Assignment) : List Char :=
  "getRoomOrItem(\"".toList ++ a.element ++ "\")[\"".toList ++ a.key ++ "\"] ".toList ++
    a.function.operator.toList ++ [' '] ++ a.value ++ [';']

/-- The statement in the pieces in which it is read. -/
lemma text_append (a : Assignment) (r : List Char) :
    a.text ++ r = "getRoomOrItem(\"".toList ++ (a.element ++ '"' :: (")[\"".toList ++
      (a.key ++ '"' :: ("] ".toList ++ (a.function.operator.toList ++ ' ' ::
        (a.value ++ ';' :: r)))))) := by
  show ("getRoomOrItem(\"".toList ++ a.element ++ '"' :: ")[\"".toList ++ a.key ++
    '"' :: "] ".toList ++ a.function.operator.toList ++ [' '] ++ a.value ++ [';']) ++ r = _
  simp only [List.append_assoc, List.cons_append, List.nil_append]

lemma text_append_ne_nil (a : Assignment) (r : List Char) : a.text ++ r ≠ [] := by
  rw [text_append]
  exact List.cons_ne_nil _ _

/-- The names are escaped, and the value is a canonical decimal or a literal. -/
structure WellFormed (a : Assignment) : Prop where
  element : Escaped nameEscapes a.element
  key : Escaped nameEscapes a.key
  value : IsValueText a.value

/-- The assignment says what the call says. -/
structure IsOf (a : Assignment) (call : Call) : Prop where
  element : unquote call.element = some a.element
  key : unquote call.key = some a.key
  function : a.function = call.operation.keyword
  value : a.value = call.operation.value.render

def texts (as : List Assignment) : List Char :=
  as.flatMap text

lemma texts_cons (a : Assignment) (as : List Assignment) : texts (a :: as) = a.text ++ texts as :=
  List.flatMap_cons ..

end Assignment

/-! ### A reader of assignments -/

/-- The text up to the closing quote of a literal, and the text after the quote. A backslash keeps
the next character from being looked at. -/
def scanLiteral : List Char → Option (List Char × List Char)
  | []              => none
  | '"' :: cs       => some ([], cs)
  | '\\' :: c :: cs => (scanLiteral cs).map fun (l, r) => ('\\' :: c :: l, r)
  | c :: cs         => (scanLiteral cs).map fun (l, r) => (c :: l, r)

/-- The function whose operator is at the front of the text. -/
def scanOperator (cs : List Char) : Option (Keyword × List Char) :=
  Keyword.all.findSome? fun k => (dropWord k.operator.toList cs).map (k, ·)

/-- A literal, or all text in front of a semicolon. -/
def scanValue : List Char → Option (List Char × List Char)
  | '"' :: cs => (scanLiteral cs).map fun (l, r) => ('"' :: (l ++ ['"']), r)
  | cs        => some (cutWhile (· != ';') cs)

/-- The assignment at the front of the text, and the text after its semicolon. -/
def scanAssignment (cs : List Char) : Option (Assignment × List Char) := do
  let cs ← dropWord "getRoomOrItem(\"".toList cs
  let (element, cs) ← scanLiteral cs
  let cs ← dropWord ")[\"".toList cs
  let (key, cs) ← scanLiteral cs
  let cs ← dropWord "] ".toList cs
  let (function, cs) ← scanOperator cs
  let cs ← dropWord [' '] cs
  let (value, cs) ← scanValue cs
  let cs ← dropWord [';'] cs
  return (⟨element, key, function, value⟩, cs)

lemma dropWord_length {w cs r : List Char} (h : dropWord w cs = some r) :
    r.length ≤ cs.length := by
  rw [dropWord_eq_some_iff.1 h, List.length_append]
  omega

/-- What follows a literal is shorter than the text by the closing quote at least. -/
lemma scanLiteral_length {cs l r : List Char} (h : scanLiteral cs = some (l, r)) :
    r.length < cs.length := by
  fun_induction scanLiteral cs generalizing l with
  | case1 => simp at h
  | case2 cs =>
    obtain ⟨rfl, rfl⟩ := Prod.mk.inj (Option.some.inj h)
    simp
  | case3 c cs ih =>
    obtain ⟨⟨a, b⟩, hab, he⟩ := Option.map_eq_some_iff.1 h
    obtain ⟨rfl, rfl⟩ := Prod.mk.inj he
    have := ih hab
    simp only [List.length_cons]
    omega
  | case4 c cs _ _ ih =>
    obtain ⟨⟨a, b⟩, hab, he⟩ := Option.map_eq_some_iff.1 h
    obtain ⟨rfl, rfl⟩ := Prod.mk.inj he
    have := ih hab
    simp only [List.length_cons]
    omega

lemma scanOperator_length {cs r : List Char} {k : Keyword} (h : scanOperator cs = some (k, r)) :
    r.length ≤ cs.length := by
  obtain ⟨k', -, hk⟩ := List.exists_of_findSome?_eq_some h
  obtain ⟨r', hr, he⟩ := Option.map_eq_some_iff.1 hk
  obtain ⟨rfl, rfl⟩ := Prod.mk.inj he
  exact dropWord_length hr

lemma scanValue_length {cs l r : List Char} (h : scanValue cs = some (l, r)) :
    r.length ≤ cs.length := by
  unfold scanValue at h
  split at h
  · obtain ⟨⟨a, b⟩, hab, he⟩ := Option.map_eq_some_iff.1 h
    obtain ⟨rfl, rfl⟩ := Prod.mk.inj he
    have := scanLiteral_length hab
    simp only [List.length_cons]
    omega
  · obtain ⟨happ, -, -⟩ := cutWhile_eq_iff.1 (Option.some.inj h)
    rw [happ, List.length_append]
    omega

/-- What follows an assignment is shorter than the text by the semicolon at least, so that the
reader of assignments comes to an end. -/
lemma scanAssignment_length {cs r : List Char} {a : Assignment}
    (h : scanAssignment cs = some (a, r)) : r.length < cs.length := by
  simp only [scanAssignment, Option.bind_eq_bind, Option.bind_eq_some_iff, Prod.exists,
    Option.pure_def, Option.some.injEq, Prod.mk.injEq] at h
  obtain ⟨_, h₁, _, _, h₂, _, h₃, _, _, h₄, _, h₅, _, _, h₆, _, h₇, _, _, h₈, _, h₉, -, rfl⟩ := h
  have := dropWord_length h₁
  have := scanLiteral_length h₂
  have := dropWord_length h₃
  have := scanLiteral_length h₄
  have := dropWord_length h₅
  have := scanOperator_length h₆
  have := dropWord_length h₇
  have := scanValue_length h₈
  have := dropWord_length h₉
  omega

/-- The assignments that make up a text. -/
def readAssignments (cs : List Char) : Option (List Assignment) :=
  if cs = [] then some []
  else
    match _h : scanAssignment cs with
    | none        => none
    | some (a, r) => (readAssignments r).map (a :: ·)
termination_by cs.length
decreasing_by exact scanAssignment_length _h

/-! ### The reader finds every assignment again -/

/-- Whatever follows a literal, its closing quote is found. -/
lemma scanLiteral_escaped {escapes l : List Char} (h : Escaped escapes l) (r : List Char) :
    scanLiteral (l ++ '"' :: r) = some (l, r) := by
  induction h with
  | nil => rfl
  | @plain c cs hc _ ih =>
    simp only [List.mem_cons, not_or] at hc
    rw [List.cons_append, scanLiteral.eq_4 _ _ hc.1 (fun _ _ hb => absurd hb hc.2.1), ih]
    rfl
  | escape _ _ ih =>
    rw [List.cons_append, List.cons_append, scanLiteral.eq_3, ih]
    rfl

/-- The operators of different functions differ in their first characters. -/
lemma scanOperator_append (k : Keyword) (r : List Char) :
    scanOperator (k.operator.toList ++ ' ' :: r) = some (k, ' ' :: r) := by
  cases k <;> rfl

/-- The first character of a canonical decimal is no quote. -/
lemma toString_append_ne_quote {n : Int} {r cs : List Char} (hr : r.head? ≠ some '"') :
    (toString n).toList ++ r ≠ '"' :: cs := by
  intro hcs
  cases hl : (toString n).toList with
  | nil =>
    rw [hl, List.nil_append] at hcs
    exact hr (by rw [hcs, List.head?_cons])
  | cons c l =>
    rw [hl, List.cons_append] at hcs
    obtain ⟨rfl, -⟩ := List.cons.inj hcs
    have hmem : '"' ∈ (toString n).toList := by rw [hl]; exact List.mem_cons_self ..
    rcases isDigit_or_minus_of_mem_toString hmem with hd | hd
    · exact absurd hd (by decide)
    · exact absurd hd (by decide)

/-- A value ends at the semicolon after it. -/
lemma scanValue_append {cs : List Char} (h : IsValueText cs) (r : List Char) :
    scanValue (cs ++ ';' :: r) = some (cs, ';' :: r) := by
  cases h with
  | integer n =>
    have hcut : cutWhile (· != ';') ((toString n).toList ++ ';' :: r) =
        ((toString n).toList, ';' :: r) := by
      refine cutWhile_eq_iff.2 ⟨rfl, fun c hc => ?_, by simp⟩
      rcases isDigit_or_minus_of_mem_toString hc with hd | rfl
      · rw [bne_iff_ne]
        rintro rfl
        exact absurd hd (by decide)
      · rfl
    rw [scanValue.eq_2 _ fun _ => toString_append_ne_quote (by simp), hcut]
  | literal h => simp [scanValue, scanLiteral_escaped h]

/-- Whatever follows an assignment, it is read back from the front. -/
lemma scanAssignment_append {a : Assignment} (h : a.WellFormed) (r : List Char) :
    scanAssignment (a.text ++ r) = some (a, r) := by
  have hdrop : ∀ w r : List Char, dropWord w (w ++ r) = some r :=
    fun w r => dropWord_eq_some_iff.2 rfl
  have hspace : ∀ r, dropWord [' '] (' ' :: r) = some r := hdrop [' ']
  have hsemicolon : dropWord [';'] (';' :: r) = some r := hdrop [';'] r
  rw [Assignment.text_append, scanAssignment, hdrop]
  simp only [Option.bind_eq_bind, Option.bind_some, hdrop, hspace, hsemicolon,
    scanLiteral_escaped h.element, scanLiteral_escaped h.key, scanOperator_append,
    scanValue_append h.value]
  rfl

/-- A row of assignments is read back. -/
theorem readAssignments_texts {as : List Assignment} (h : ∀ a ∈ as, a.WellFormed) :
    readAssignments (Assignment.texts as) = some as := by
  induction as with
  | nil =>
    rw [readAssignments]
    rfl
  | cons a as ih =>
    obtain ⟨ha, has⟩ := List.forall_mem_cons.1 h
    have hscan := scanAssignment_append ha (Assignment.texts as)
    have hne := a.text_append_ne_nil (Assignment.texts as)
    rw [Assignment.texts_cons, readAssignments, if_neg hne]
    -- The reader matches on a scan that its termination depends on, so the scan cannot be rewritten
    -- in place.
    split
    · next hnone => rw [hscan] at hnone; cases hnone
    · next b r hsome =>
      rw [hscan] at hsome
      obtain ⟨rfl, rfl⟩ := Prod.mk.inj (Option.some.inj hsome)
      rw [ih has]
      rfl

/-! ### The assignment of a call -/

/-- A name in a call loses its quotes, and what is left is escaped as names are. -/
lemma Token.IsName.exists_unquote {t : Token} {x : List Char} (h : t.IsName x)
    (ht : t.IsLexeme) : ∃ y, unquote x = some y ∧ Escaped nameEscapes y := by
  cases h with
  | string l =>
    obtain ⟨body, hbody, rfl⟩ := ht.matchesKind
    have hesc := escaped_singleLine hbody
    exact ⟨_, by rw [singleLine_quoted, unquote_quoted hesc], hesc⟩
  | identifier =>
    have hx : IsIdentifier x := ht.matchesKind
    exact ⟨x, unquote_identifier hx, escaped_of_isAsciiWord hx.isAsciiWord⟩

/-- A value renders to a canonical decimal or to a literal. -/
lemma Token.IsValue.isValueText {t : Token} {v : Value} (h : t.IsValue render v)
    (ht : t.IsLexeme) : IsValueText v.render := by
  cases h with
  | @integer _ n _ => exact .integer n
  | mdString l => exact .literal (escaped_escapeChar _)
  | string l =>
    obtain ⟨body, hbody, rfl⟩ := ht.matchesKind
    have hesc : Escaped valueEscapes (singleLine body) :=
      (escaped_singleLine hbody).mono nameEscapes_subset_valueEscapes
    rw [Value.render, singleLine_quoted]
    exact .literal hesc

lemma Token.IsOperand.isValueText {t : Token} {op : Operation} (h : t.IsOperand render op)
    (ht : t.IsLexeme) : IsValueText op.value.render := by
  cases h with
  | set h | add h => exact h.isValueText ht
  | sub | mul | div => exact .integer _

/-- The statement of a call is the assignment that says the same. -/
lemma Assignment.IsOf.statement {a : Assignment} {call : Call} (h : a.IsOf call) :
    call.statement = .ok a.text := by
  unfold Call.statement
  rw [h.element, h.key, ← h.function, ← h.value]
  rfl

/-- What the tokens of a call say is an assignment. -/
lemma IsCall.exists_assignment {ts : List Token} {call : Call} (hl : ∀ t ∈ ts, t.IsLexeme)
    (h : IsCall render ts call) : ∃ a : Assignment, a.IsOf call ∧ a.WellFormed := by
  obtain ⟨key, value, element, rfl, hkey, hvalue, helement⟩ := h
  have hargs : ∀ t ∈ [key, value, element], t.IsLexeme := by
    intro t ht
    apply hl
    exact mem_callTokens _ ht
  simp only [List.forall_mem_cons] at hargs
  obtain ⟨lkey, lvalue, lelement, -⟩ := hargs
  obtain ⟨e, he, hee⟩ := helement.exists_unquote lelement
  obtain ⟨k, hk, hke⟩ := hkey.exists_unquote lkey
  exact ⟨⟨e, k, call.operation.keyword, call.operation.value.render⟩, ⟨he, hk, rfl, rfl⟩,
    ⟨hee, hke, hvalue.isValueText lvalue⟩⟩

/-! ### The statement of an action -/

/-- The action is white space and nothing else. -/
def isBlank (action : List Char) : Bool :=
  action.all isSpace

namespace Assignment

/-- The assignment says what the action says. -/
def IsOfAction (render : List Char → List Char) (action : List Char) (a : Assignment) : Prop :=
  ∃ call, parse render action = .ok call ∧ a.IsOf call

end Assignment

/-- White space is the only lexeme that is blank. -/
lemma Token.IsLexeme.isBlank_lexeme_iff {t : Token} (h : t.IsLexeme) :
    isBlank t.lexeme = true ↔ t.kind = .whitespace := by
  have hm := h.matchesKind
  constructor
  · intro hblank
    obtain ⟨c, l, hl⟩ := List.exists_cons_of_ne_nil hm.ne_nil
    rw [hl] at hm hblank
    apply hm.eq_whitespace
    exact List.all_eq_true.1 hblank c (List.mem_cons_self ..)
  · intro hk
    rw [hk] at hm
    exact List.all_eq_true.2 hm.2

/-- Tokens without significant ones are cut from white space. -/
lemma Lexed.significant_eq_nil_iff {ts : List Token} (h : Lexed ts) :
    significant ts = [] ↔ isBlank (Token.concat ts) = true := by
  induction ts with
  | nil => exact iff_of_true rfl rfl
  | cons t ts ih =>
    obtain ⟨ht, -, hts⟩ := lexed_cons.1 h
    have hblank : isBlank (Token.concat (t :: ts)) = true ↔
        isBlank t.lexeme = true ∧ isBlank (Token.concat ts) = true := by
      simp [isBlank]
    rw [hblank, ht.isBlank_lexeme_iff, ← ih hts]
    by_cases hk : t.kind = .whitespace
    · simp [significant, Token.isSignificant, hk]
    · simp [significant_cons hk, hk]

/-- An action that compiles is blank and has no statement, or its statement is an assignment. -/
lemma exists_assignment_of_compile {action out : List Char}
    (h : compile render action = .ok out) :
    (isBlank action = true ∧ out = []) ∨
      (isBlank action = false ∧
        ∃ a : Assignment, a.IsOfAction render action ∧ a.WellFormed ∧ out = a.text) := by
  obtain ⟨ts, hts⟩ := exists_tokenize_of_compile h
  obtain ⟨hconcat, hlexed⟩ := tokenize_eq_ok_iff.1 hts
  rw [compile_of_tokenize hts, mapError_eq_ok_iff, compileTokens_eq_ok_iff] at h
  rcases h with ⟨hnil, rfl⟩ | ⟨call, hne, hread, hst⟩
  · exact .inl ⟨by rwa [hlexed.significant_eq_nil_iff, hconcat] at hnil, rfl⟩
  · refine .inr ⟨?_, ?_⟩
    · rwa [Ne, hlexed.significant_eq_nil_iff, hconcat, Bool.not_eq_true] at hne
    · have hl := hlexed.isLexeme_of_mem_significant
      obtain ⟨a, ha, hwf⟩ := ((readCall_eq_ok_iff hl).1 hread).exists_assignment hl
      have hparse : parse render action = .ok call := by
        rw [parse, lex_of_tokenize hts]
        exact mapError_eq_ok_iff.2 hread
      rw [ha.statement] at hst
      exact ⟨a, ⟨call, hparse, ha⟩, hwf, (Except.ok.inj hst).symm⟩

/-! ### The statements of a list of actions -/

/-- Actions compile if the first one and the others do, and their statements follow each other. -/
lemma compileAll_cons_eq_ok_iff {action out : List Char} {actions : List (List Char)} :
    compileAll render (action :: actions) = .ok out ↔
      ∃ st rest, compile render action = .ok st ∧ compileAll render actions = .ok rest ∧
        out = st ++ rest := by
  simp only [compileAll, bind_eq_ok_iff, pure_eq_ok_iff]
  constructor
  · rintro ⟨st, hst, rest, hrest, rfl⟩
    exact ⟨st, rest, hst, hrest, rfl⟩
  · rintro ⟨st, rest, hst, hrest, rfl⟩
    exact ⟨st, hst, rest, hrest, rfl⟩

/-- The first action that fails decides. The others do not matter then. -/
lemma compileAll_cons_eq_error_iff {action : List Char} {actions : List (List Char)}
    {e : Failure} :
    compileAll render (action :: actions) = .error e ↔
      compile render action = .error e ∨
        (∃ st, compile render action = .ok st) ∧ compileAll render actions = .error e := by
  rw [compileAll]
  cases compile render action with
  | error e' => simp [bind, Except.bind]
  | ok st =>
    cases compileAll render actions <;> simp [bind, Except.bind, pure, Except.pure]

/-- The statements of a list of actions are the assignments of the actions that are not blank. -/
lemma exists_assignments_of_compileAll {actions : List (List Char)} {out : List Char}
    (h : compileAll render actions = .ok out) :
    ∃ as : List Assignment,
      List.Forall₂ (fun action a => a.IsOfAction render action)
        (actions.filter fun action => !isBlank action) as ∧
      (∀ a ∈ as, a.WellFormed) ∧ out = Assignment.texts as := by
  induction actions generalizing out with
  | nil =>
    obtain rfl := pure_eq_ok_iff.1 h
    exact ⟨[], .nil, by simp, rfl⟩
  | cons action actions ih =>
    obtain ⟨st, rest, hst, hrest, rfl⟩ := compileAll_cons_eq_ok_iff.1 h
    obtain ⟨as, has, hwf, rfl⟩ := ih hrest
    rcases exists_assignment_of_compile hst with ⟨hblank, rfl⟩ | ⟨hblank, a, ha, hwfa, rfl⟩
    · -- A blank action adds nothing, and the filter drops it.
      refine ⟨as, ?_, hwf, rfl⟩
      rwa [List.filter_cons_of_neg (by simp [hblank])]
    · refine ⟨a :: as, ?_, List.forall_mem_cons.2 ⟨hwfa, hwf⟩, (Assignment.texts_cons a as).symm⟩
      rw [List.filter_cons_of_pos (by simp [hblank])]
      exact .cons ha has

/-- The first action that has no statement decides how a list of actions fails. -/
lemma compileAll_eq_error_iff {actions : List (List Char)} {e : Failure} :
    compileAll render actions = .error e ↔
      ∃ pre action post, actions = pre ++ action :: post ∧
        (∀ b ∈ pre, ∃ st, compile render b = .ok st) ∧ compile render action = .error e := by
  induction actions with
  | nil => simp [compileAll, pure, Except.pure]
  | cons action actions ih =>
    rw [compileAll_cons_eq_error_iff, ih]
    constructor
    · rintro (he | ⟨hst, pre, b, post, rfl, hpre, he⟩)
      · exact ⟨[], action, actions, rfl, by simp, he⟩
      · exact ⟨action :: pre, b, post, rfl, List.forall_mem_cons.2 ⟨hst, hpre⟩, he⟩
    · rintro ⟨pre, b, post, happ, hpre, he⟩
      cases pre with
      | nil =>
        obtain ⟨rfl, -⟩ := List.cons.inj happ
        exact .inl he
      | cons c pre =>
        obtain ⟨rfl, rfl⟩ := List.cons.inj happ
        obtain ⟨hst, hpre⟩ := List.forall_mem_cons.1 hpre
        exact .inr ⟨hst, pre, b, post, rfl, hpre, he⟩

/-- A value keeps to one line, and has no carriage return. -/
lemma IsValueText.not_mem {cs : List Char} (h : IsValueText cs) {x : Char}
    (hx : x = '\n' ∨ x = '\r') : x ∉ cs := by
  cases h with
  | integer n =>
    intro hmem
    rcases isDigit_or_minus_of_mem_toString hmem with hd | rfl
    · rcases hx with rfl | rfl <;> exact absurd hd (by decide)
    · rcases hx with hx | hx <;> exact absurd hx (by decide)
  | literal h =>
    have hesc : x ∉ valueEscapes := by rcases hx with rfl | rfl <;> decide
    have hquote : x ≠ '"' := by rcases hx with rfl | rfl <;> decide
    simp [hquote, h.not_mem hx hesc]

/-- An assignment stays on one line. -/
lemma Assignment.WellFormed.not_mem_text {a : Assignment} (h : a.WellFormed) {x : Char}
    (hx : x = '\n' ∨ x = '\r') : x ∉ a.text := by
  have hesc : x ∉ nameEscapes := by rcases hx with rfl | rfl <;> decide
  have helement := h.element.not_mem hx hesc
  have hkey := h.key.not_mem hx hesc
  have hvalue := h.value.not_mem hx
  have hoperator : x ∉ a.function.operator.toList := by
    rcases hx with rfl | rfl <;> cases a.function <;> decide
  have hfront : x ∉ "getRoomOrItem(\"".toList := by rcases hx with rfl | rfl <;> decide
  have hmiddle : x ∉ ")[\"".toList := by rcases hx with rfl | rfl <;> decide
  have hend : x ∉ "] ".toList := by rcases hx with rfl | rfl <;> decide
  have hmarks : x ≠ '"' ∧ x ≠ ' ' ∧ x ≠ ';' := by rcases hx with rfl | rfl <;> decide
  rw [← List.append_nil a.text, text_append]
  simp only [List.mem_append, List.mem_cons, List.not_mem_nil, helement, hkey, hvalue, hoperator,
    hfront, hmiddle, hend, hmarks, or_false, not_false_eq_true]

lemma Assignment.not_mem_texts {as : List Assignment} (h : ∀ a ∈ as, a.WellFormed) {x : Char}
    (hx : x = '\n' ∨ x = '\r') : x ∉ texts as := by
  intro hmem
  obtain ⟨a, ha, hxa⟩ := List.mem_flatMap.1 hmem
  exact (h a ha).not_mem_text hx hxa

/-- The statements of a list of actions stay on one line and are assignments, one for each action
that is not blank, in order and saying what the action says. They are split into assignments in one
way only, and the reader of assignments finds it. A list that has no statements fails like its first
action that has none. -/
theorem compileAll_segments (render : List Char → List Char) (actions : List (List Char)) :
    (∀ out, compileAll render actions = .ok out →
      '\n' ∉ out ∧ '\r' ∉ out ∧
      ∃ as : List Assignment,
        List.Forall₂ (fun action a => a.IsOfAction render action)
          (actions.filter fun action => !isBlank action) as ∧
        (∀ a ∈ as, a.WellFormed) ∧ out = Assignment.texts as ∧ readAssignments out = some as ∧
        ∀ as' : List Assignment, (∀ a ∈ as', a.WellFormed) → out = Assignment.texts as' →
          as' = as) ∧
    ∀ e, compileAll render actions = .error e ↔
      ∃ pre action post, actions = pre ++ action :: post ∧
        (∀ b ∈ pre, ∃ st, compile render b = .ok st) ∧ compile render action = .error e := by
  constructor
  · intro out hout
    obtain ⟨as, has, hwf, rfl⟩ := exists_assignments_of_compileAll hout
    have hread := readAssignments_texts hwf
    refine ⟨Assignment.not_mem_texts hwf (.inl rfl), Assignment.not_mem_texts hwf (.inr rfl), as,
      has, hwf, rfl, hread, ?_⟩
    intro as' hwf' htexts
    -- Any other segmentation would be read back as well, and there is one result of reading.
    rw [htexts, readAssignments_texts hwf'] at hread
    exact Option.some.inj hread
  · intro e
    exact compileAll_eq_error_iff

/-- Quotes, brackets and semicolons in names, in values and in rendered HTML, and a blank action:
the statements are those of the other two actions. -/
theorem compileAll_segments_quotes :
    ∃ out as, compileAll (Markdown.render {})
        ["set(\"a\\\"]\", \"x\\\"; y\", room)".toList, " \t".toList,
          "add(m\"**b** \\\";\", text, \"c(,)\")".toList] = .ok out ∧
      readAssignments out = some as ∧ as.length = 2 := by
  have hout : compileAll (Markdown.render {})
      ["set(\"a\\\"]\", \"x\\\"; y\", room)".toList, " \t".toList,
        "add(m\"**b** \\\";\", text, \"c(,)\")".toList] =
      .ok ("getRoomOrItem(\"room\")[\"a\\\"]\"] = \"x\\\"; y\";".toList ++
        "getRoomOrItem(\"c(,)\")[\"text\"] += \"<p><strong>b</strong> \\\";</p>\";".toList) := by
    decide +kernel
  obtain ⟨-, -, as, has, -, -, hread, -⟩ := (compileAll_segments (Markdown.render {}) _).1 _ hout
  exact ⟨_, as, hout, hread, has.length_eq.symm.trans (by decide)⟩

end Adventure.Action
