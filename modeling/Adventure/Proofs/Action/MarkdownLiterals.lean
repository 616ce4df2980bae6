import Adventure.Proofs.Action.Arguments

/-!
# Markdown literals

An author writes a Markdown text as `m"…"` with a backslash in front of every quote. The statement
has a literal of the rendered text, in which other escapes are in use: a reader that knows them gets
back what was rendered, and never takes a part of it for the end of the literal.

* `literalText_quote`, `unescapedQuotes_quote` : the literal of a text says the text and ends where
  the text ends.
* `compile_markdownLiteral` : the statement of a call with a Markdown literal says the rendered text.
-/

namespace Adventure.Action

variable {cs : List Char}

/-! ### Literals of rendered texts -/

/-- The text that `\"`, `\\` and `\n` between the quotes of a value stand for. -/
def decodeValue : List Char → List Char
  | []                 => []
  | '\\' :: '"' :: cs  => '"' :: decodeValue cs
  | '\\' :: '\\' :: cs => '\\' :: decodeValue cs
  | '\\' :: 'n' :: cs  => '\n' :: decodeValue cs
  | c :: cs            => c :: decodeValue cs

/-- The text that a literal stands for. -/
def literalText (l : List Char) : List Char :=
  decodeValue (l.drop 1).dropLast

/-- Where the quotes stand that are not escaped, counted from `i` on. A backslash keeps the next
character from being looked at. -/
def unescapedQuotes (i : Nat) : List Char → List Nat
  | []              => []
  | '\\' :: _ :: cs => unescapedQuotes (i + 2) cs
  | '"' :: cs       => i :: unescapedQuotes (i + 1) cs
  | _ :: cs         => unescapedQuotes (i + 1) cs

lemma decodeValue_cons {c : Char} (hc : c ≠ '\\') (cs : List Char) :
    decodeValue (c :: cs) = c :: decodeValue cs :=
  decodeValue.eq_5 c cs (fun _ h _ => hc h) (fun _ h _ => hc h) (fun _ h _ => hc h)

/-- Decoding reverts the escape of a character. Nothing is left of a carriage return. -/
lemma decodeValue_escapeChar_append (c : Char) (cs : List Char) :
    decodeValue (escapeChar c ++ cs) = if c = '\r' then decodeValue cs else c :: decodeValue cs := by
  unfold escapeChar
  split
  · rfl
  · rfl
  · rfl
  · rfl
  · next _ hb _ hr => rw [List.singleton_append, decodeValue_cons hb, if_neg hr]

/-- Escaping is undone, but for the carriage returns that it leaves out. -/
theorem decodeValue_escapeChar (cs : List Char) :
    decodeValue (cs.flatMap escapeChar) = cs.filter (· != '\r') := by
  induction cs with
  | nil => rfl
  | cons c cs ih =>
    rw [List.flatMap_cons, decodeValue_escapeChar_append, ih]
    split
    · next h => rw [List.filter_cons_of_neg (by simp [h])]
    · next h => rw [List.filter_cons_of_pos (by simpa using h)]

/-- A literal stands for the text that was quoted, without its carriage returns. -/
theorem literalText_quote (cs : List Char) : literalText (quote cs) = cs.filter (· != '\r') := by
  rw [quote, literalText, List.cons_append, List.drop_one, List.tail_cons, List.dropLast_concat,
    decodeValue_escapeChar]

/-- The first quote behind escaped text is the one that is put there. -/
lemma unescapedQuotes_escaped {escapes : List Char} (h : Escaped escapes cs) (i : Nat) :
    unescapedQuotes i (cs ++ ['"']) = [i + cs.length] := by
  induction h generalizing i with
  | nil => rfl
  | @plain c cs hc _ ih =>
    simp only [List.mem_cons, not_or] at hc
    obtain ⟨hq, hb, -⟩ := hc
    rw [List.cons_append, unescapedQuotes.eq_4 _ _ _ (fun _ _ h _ => hb h) hq, ih,
      List.length_cons]
    congr 1
    omega
  | escape _ _ ih =>
    rw [List.cons_append, List.cons_append, unescapedQuotes, ih, List.length_cons, List.length_cons]
    congr 1
    omega

/-- Of the quotes in a literal only those at its ends are not escaped. -/
theorem unescapedQuotes_quote (cs : List Char) :
    unescapedQuotes 0 (quote cs) = [0, (quote cs).length - 1] := by
  rw [quote, List.cons_append, unescapedQuotes, unescapedQuotes_escaped (escaped_escapeChar cs),
    List.length_cons, List.length_append, Nat.add_sub_cancel]
  congr 2
  simp only [List.length_singleton]
  omega

/-- A literal keeps to one line. -/
lemma not_mem_quote {c : Char} (hc : c = '\n' ∨ c = '\r') (cs : List Char) : c ∉ quote cs := by
  have hvalue : IsValueText (quote cs) := by
    rw [quote, List.cons_append]
    exact .literal (escaped_escapeChar cs)
  exact hvalue.not_mem hc

/-- Texts without carriage returns have literals of their own. -/
lemma quote_injective {cs ds : List Char} (hcs : '\r' ∉ cs) (hds : '\r' ∉ ds)
    (h : quote cs = quote ds) : cs = ds := by
  have hfilter : ∀ {l : List Char}, '\r' ∉ l → literalText (quote l) = l := by
    intro l hl
    rw [literalText_quote, List.filter_eq_self]
    rintro c hc
    rw [bne_iff_ne]
    rintro rfl
    exact hl hc
  rw [← hfilter hcs, h, hfilter hds]

/-! ### Markdown literals of authors -/

/-- The Markdown literal that an author writes for a text. -/
def markdownLiteral (text : List Char) : List Char :=
  'm' :: authorLiteral text

lemma unescapeQuotes_cons {c : Char} (hc : c ≠ '\\') (cs : List Char) :
    unescapeQuotes (c :: cs) = c :: unescapeQuotes cs :=
  unescapeQuotes.eq_3 c cs fun _ h _ => hc h

/-- The backslashes that an author puts in front of quotes are taken away again. -/
lemma unescapeQuotes_escapeQuote {text : List Char} (h : '\\' ∉ text) :
    unescapeQuotes (text.flatMap escapeQuote) = text := by
  induction text with
  | nil => rfl
  | cons c cs ih =>
    obtain ⟨hc, hcs⟩ := not_or.1 (mt List.mem_cons.2 h)
    rw [List.flatMap_cons]
    by_cases hq : c = '"'
    · subst hq
      show '"' :: unescapeQuotes (cs.flatMap escapeQuote) = _
      rw [ih hcs]
    · rw [escapeQuote_of_ne hq, List.singleton_append, unescapeQuotes_cons (Ne.symm hc), ih hcs]

/-- Between the quotes of the literal that an author writes there is the text. -/
lemma mdInterior_markdownLiteral {text : List Char} (h : '\\' ∉ text) :
    mdInterior (markdownLiteral text) = text := by
  show unescapeQuotes (text.flatMap escapeQuote ++ ['"']).dropLast = text
  rw [List.dropLast_concat, unescapeQuotes_escapeQuote h]

lemma isLexeme_markdownLiteral {text : List Char} (h : '\\' ∉ text) :
    Token.IsLexeme ⟨.mdString, markdownLiteral text⟩ :=
  ⟨⟨_, literalBody_escapeQuote h, rfl⟩, by simp⟩

/-- Both functions that take a text take a Markdown literal. -/
lemma exists_isOperand_markdownLiteral (render : List Char → List Char) {k : Keyword}
    (hk : k = .set ∨ k = .add) {text : List Char} (h : '\\' ∉ text) :
    ∃ op : Operation, op.keyword = k ∧ op.value = .text (quote (render text)) ∧
      Token.IsOperand render ⟨.mdString, markdownLiteral text⟩ op := by
  have hvalue : Token.IsValue render ⟨.mdString, markdownLiteral text⟩
      (.text (quote (render (mdInterior (markdownLiteral text))))) := .mdString _
  rw [mdInterior_markdownLiteral h] at hvalue
  rcases hk with rfl | rfl
  · exact ⟨.set _, rfl, rfl, .set hvalue⟩
  · exact ⟨.add _, rfl, rfl, .add hvalue⟩

/-! ### Calls with a Markdown literal -/

/-- A call with the Markdown literal of a text has a statement, and its value says the text as it is
rendered, carriage returns left out. For every text, the literal in a statement stays on one line,
its quotes are escaped but for those at its ends, and it says the text; so texts without carriage
returns that differ have literals that differ. -/
theorem compile_markdownLiteral (render : List Char → List Char) :
    (∀ (gap : Nat → List Char) (k : Keyword) (key element x y text : List Char),
      (∀ n, ∀ c ∈ gap n, isSpace c = true) → (k = .set ∨ k = .add) → IsNameText key x →
        IsNameText element y → '\\' ∉ text →
          compile render (callText gap k key (markdownLiteral text) element) =
              .ok (Assignment.text ⟨y, x, k, quote (render text)⟩) ∧
            literalText (quote (render text)) = (render text).filter (· != '\r')) ∧
    (∀ html, '\n' ∉ quote html ∧ '\r' ∉ quote html ∧
      unescapedQuotes 0 (quote html) = [0, (quote html).length - 1] ∧
      literalText (quote html) = html.filter (· != '\r')) ∧
    ∀ html html', '\r' ∉ html → '\r' ∉ html' → quote html = quote html' → html = html' := by
  refine ⟨?_, ?_, ?_⟩
  · intro gap k key element x y text hgap hk hkey helement htext
    obtain ⟨op, rfl, hvalue, hop⟩ := exists_isOperand_markdownLiteral render hk htext
    have hout := compile_of_isOperand hgap hkey helement (isLexeme_markdownLiteral htext) hop
    rw [hvalue] at hout
    exact ⟨hout, literalText_quote _⟩
  · intro html
    exact ⟨not_mem_quote (.inl rfl) html, not_mem_quote (.inr rfl) html, unescapedQuotes_quote html,
      literalText_quote html⟩
  · intro html html' h h' heq
    exact quote_injective h h' heq

/-- A Markdown text with quotes, markup and a line end. -/
theorem compile_markdownLiteral_quotes :
    ∃ value, compile (Markdown.render {}) "add(m\"say \\\"hi\\\"\r\n**now**\",text,hall)".toList =
        .ok (Assignment.text ⟨"hall".toList, "text".toList, .add, value⟩) ∧
      literalText value = "<p>say \"hi\"\n<strong>now</strong></p>".toList := by
  have hname : ∀ c cs, c.isAlpha = true → (∀ x ∈ cs, Text.isAsciiWord x = true) →
      (∀ k : Keyword, c :: cs ≠ k.name.toList) → IsNameText (c :: cs) (c :: cs) :=
    fun c cs hc hcs hne => .identifier ⟨c, cs, rfl, hc, hcs⟩ hne
  have hkey : IsNameText "text".toList "text".toList :=
    hname _ _ (by decide) (List.all_eq_true.1 (by decide)) fun k => by cases k <;> decide
  have helement : IsNameText "hall".toList "hall".toList :=
    hname _ _ (by decide) (List.all_eq_true.1 (by decide)) fun k => by cases k <;> decide
  obtain ⟨hcall, -, -⟩ := compile_markdownLiteral (Markdown.render {})
  obtain ⟨hout, htext⟩ := hcall (fun _ => []) .add "text".toList "hall".toList _ _
    "say \"hi\"\r\n**now**".toList (by simp) (.inr rfl) hkey helement (by decide)
  exact ⟨_, hout, htext.trans (by decide +kernel)⟩

end Adventure.Action
