import Adventure.Action.Token

/-!
# The lexer of the action language

Each kind of token has a rule that cuts a lexeme off the front of a text. The rules are tried in a
fixed order and the first that applies wins, so that a keyword comes before the identifier of the
same spelling and `m"…"` before the identifier `m`.

* `TokenKind.cut_append` : a lexeme and the rest make up the text.
* `TokenKind.cut_length` : the rest is shorter than the text.
-/

namespace Adventure.Action

open Text

/-! ### Rules -/

def dropWord : List Char → List Char → Option (List Char)
  | [],      cs      => some cs
  | _ :: _,  []      => none
  | w :: ws, c :: cs => if w = c then dropWord ws cs else none

/-- A lexeme that has to end where a word ends. -/
def atBoundary (lexeme rest : List Char) : Option (List Char × List Char) :=
  if atWordEnd rest then some (lexeme, rest) else none

/-- A whole word. -/
def cutWord (word cs : List Char) : Option (List Char × List Char) :=
  (dropWord word cs).bind (atBoundary word)

/-- The remainder of a string literal up to its closing quote. A backslash may only stand before a
quote, which then does not close the literal. -/
def cutLiteralRest : List Char → Option (List Char × List Char)
  | []               => none
  | '"' :: cs        => some (['"'], cs)
  | '\\' :: '"' :: cs => (cutLiteralRest cs).map fun (l, r) => ('\\' :: '"' :: l, r)
  | '\\' :: _        => none
  | c :: cs          => (cutLiteralRest cs).map fun (l, r) => (c :: l, r)

def cutString : List Char → Option (List Char × List Char)
  | '"' :: cs => (cutLiteralRest cs).map fun (l, r) => ('"' :: l, r)
  | _         => none

/-- A Markdown literal: a string literal after the letter `m`. -/
def cutMdString : List Char → Option (List Char × List Char)
  | 'm' :: '"' :: cs => (cutLiteralRest cs).map fun (l, r) => ('m' :: '"' :: l, r)
  | _                => none

/-- The longest front part of characters that satisfy `p`. -/
def cutWhile (p : Char → Bool) : List Char → List Char × List Char
  | []      => ([], [])
  | c :: cs =>
    if p c then
      let (l, r) := cutWhile p cs
      (c :: l, r)
    else ([], c :: cs)

/-- One or more digits up to the end of a word. -/
def cutDigits (cs : List Char) : Option (List Char × List Char) :=
  match cutWhile Char.isDigit cs with
  | ([], _) => none
  | (l, r)  => atBoundary l r

/-- An integer: an optional sign and one or more digits. -/
def cutInteger : List Char → Option (List Char × List Char)
  | '+' :: cs => (cutDigits cs).map fun (l, r) => ('+' :: l, r)
  | '-' :: cs => (cutDigits cs).map fun (l, r) => ('-' :: l, r)
  | cs        => cutDigits cs

/-- An identifier: a letter and then letters, digits and underscores. -/
def cutIdentifier : List Char → Option (List Char × List Char)
  | []      => none
  | c :: cs =>
    if c.isAlpha then
      let (l, r) := cutWhile isAsciiWord cs
      atBoundary (c :: l) r
    else none

def cutChar (x : Char) : List Char → Option (List Char × List Char)
  | []      => none
  | c :: cs => if c = x then some ([c], cs) else none

/-- The white space between tokens: spaces, tabs and carriage returns, but no line feeds. -/
def isSpace (c : Char) : Bool :=
  c == ' ' || c == '\t' || c == '\r'

def cutSpaces (cs : List Char) : Option (List Char × List Char) :=
  match cutWhile isSpace cs with
  | ([], _) => none
  | (l, r)  => some (l, r)

namespace TokenKind

/-- Cuts a token of this kind off the front of a text: the lexeme and the rest. -/
def cut : TokenKind → List Char → Option (List Char × List Char)
  | .keyword k,  cs => cutWord k.name.toList cs
  | .mdString,   cs => cutMdString cs
  | .string,     cs => cutString cs
  | .integer,    cs => cutInteger cs
  | .identifier, cs => cutIdentifier cs
  | .oparen,     cs => cutChar '(' cs
  | .cparen,     cs => cutChar ')' cs
  | .comma,      cs => cutChar ',' cs
  | .whitespace, cs => cutSpaces cs

/-- The kinds in the order in which their rules are tried. -/
def order : List TokenKind :=
  Keyword.all.map .keyword ++
    [.mdString, .string, .integer, .identifier, .oparen, .cparen, .comma, .whitespace]

end TokenKind

/-! ### Lexemes make up the text -/

/-- A word that is dropped stood at the front of the text. -/
theorem dropWord_append {w cs r : List Char} (h : dropWord w cs = some r) : w ++ r = cs := by
  induction w generalizing cs with
  | nil => simpa [dropWord] using h.symm
  | cons a w ih =>
    cases cs with
    | nil => simp [dropWord] at h
    | cons c cs =>
      by_cases hc : a = c
      · simp [dropWord, hc] at h
        simp [hc, ih h]
      · simp [dropWord, hc] at h

theorem atBoundary_eq {l r : List Char} {x : List Char × List Char}
    (h : atBoundary l r = some x) : x = (l, r) := by
  unfold atBoundary at h
  split at h
  · simpa using h.symm
  · simp at h

theorem cutWord_append {w cs l r : List Char} (h : cutWord w cs = some (l, r)) :
    l = w ∧ l ++ r = cs := by
  unfold cutWord at h
  obtain ⟨x, hx, hb⟩ := Option.bind_eq_some_iff.1 h
  obtain ⟨rfl, rfl⟩ := Prod.mk.inj (atBoundary_eq hb)
  exact ⟨rfl, dropWord_append hx⟩

/-- Characters that are put in front of a lexeme stand in front of the text. -/
theorem append_of_map_append {w cs l r : List Char} {x : Option (List Char × List Char)}
    (hw : w ≠ []) (happ : ∀ a b, x = some (a, b) → a ++ b = cs)
    (h : x.map (fun (a, b) => (w ++ a, b)) = some (l, r)) : l ≠ [] ∧ l ++ r = w ++ cs := by
  obtain ⟨⟨a, b⟩, hab, he⟩ := Option.map_eq_some_iff.1 h
  obtain ⟨rfl, rfl⟩ := Prod.mk.inj he
  exact ⟨List.append_ne_nil_of_left_ne_nil hw a, by rw [List.append_assoc, happ a b hab]⟩

/-- The remainder of a literal has at least its closing quote, and none of the text is lost. -/
theorem cutLiteralRest_append {cs l r : List Char} (h : cutLiteralRest cs = some (l, r)) :
    l ≠ [] ∧ l ++ r = cs := by
  fun_induction cutLiteralRest cs generalizing l r with
  | case1 => simp at h
  | case2 cs =>
    obtain ⟨rfl, rfl⟩ := Prod.mk.inj (Option.some.inj h)
    exact ⟨List.cons_ne_nil _ _, rfl⟩
  | case3 cs ih =>
    exact append_of_map_append (w := ['\\', '"']) (by simp) (fun _ _ hab => (ih hab).2) h
  | case4 => simp at h
  | case5 c cs _ _ _ ih =>
    exact append_of_map_append (w := [c]) (by simp) (fun _ _ hab => (ih hab).2) h

theorem cutString_append {cs l r : List Char} (h : cutString cs = some (l, r)) :
    l ≠ [] ∧ l ++ r = cs := by
  unfold cutString at h
  split at h
  · exact append_of_map_append (w := ['"']) (by simp)
      (fun _ _ hab => (cutLiteralRest_append hab).2) h
  · simp at h

theorem cutMdString_append {cs l r : List Char} (h : cutMdString cs = some (l, r)) :
    l ≠ [] ∧ l ++ r = cs := by
  unfold cutMdString at h
  split at h
  · exact append_of_map_append (w := ['m', '"']) (by simp)
      (fun _ _ hab => (cutLiteralRest_append hab).2) h
  · simp at h

theorem cutWhile_append (p : Char → Bool) (cs : List Char) :
    (cutWhile p cs).1 ++ (cutWhile p cs).2 = cs := by
  induction cs with
  | nil => rfl
  | cons c cs ih => by_cases h : p c <;> simp [cutWhile, h, ih]

theorem cutDigits_append {cs l r : List Char} (h : cutDigits cs = some (l, r)) :
    l ≠ [] ∧ l ++ r = cs := by
  have happ := cutWhile_append Char.isDigit cs
  unfold cutDigits at h
  split at h
  · simp at h
  · next a b hab heq =>
    obtain ⟨rfl, rfl⟩ := Prod.mk.inj (atBoundary_eq h)
    rw [heq] at happ
    exact ⟨hab, happ⟩

theorem cutInteger_append {cs l r : List Char} (h : cutInteger cs = some (l, r)) :
    l ≠ [] ∧ l ++ r = cs := by
  unfold cutInteger at h
  split at h
  · exact append_of_map_append (w := ['+']) (by simp) (fun _ _ hab => (cutDigits_append hab).2) h
  · exact append_of_map_append (w := ['-']) (by simp) (fun _ _ hab => (cutDigits_append hab).2) h
  · exact cutDigits_append h

theorem cutIdentifier_append {cs l r : List Char} (h : cutIdentifier cs = some (l, r)) :
    l ≠ [] ∧ l ++ r = cs := by
  unfold cutIdentifier at h
  split at h
  · simp at h
  · next c cs =>
    split at h
    · obtain ⟨rfl, rfl⟩ := Prod.mk.inj (atBoundary_eq h)
      exact ⟨List.cons_ne_nil _ _, by rw [List.cons_append, cutWhile_append]⟩
    · simp at h

theorem cutChar_append {x : Char} {cs l r : List Char} (h : cutChar x cs = some (l, r)) :
    l ≠ [] ∧ l ++ r = cs := by
  unfold cutChar at h
  split at h
  · simp at h
  · split at h
    · obtain ⟨rfl, rfl⟩ := Prod.mk.inj (Option.some.inj h)
      exact ⟨List.cons_ne_nil _ _, rfl⟩
    · simp at h

theorem cutSpaces_append {cs l r : List Char} (h : cutSpaces cs = some (l, r)) :
    l ≠ [] ∧ l ++ r = cs := by
  have happ := cutWhile_append isSpace cs
  unfold cutSpaces at h
  split at h
  · simp at h
  · next a b hab heq =>
    obtain ⟨rfl, rfl⟩ := Prod.mk.inj (Option.some.inj h)
    rw [heq] at happ
    exact ⟨hab, happ⟩

/-- What a rule cuts off is not empty, and nothing of the text is lost. -/
theorem TokenKind.cut_append {k : TokenKind} {cs l r : List Char} (h : k.cut cs = some (l, r)) :
    l ≠ [] ∧ l ++ r = cs := by
  cases k with
  | keyword k =>
    obtain ⟨rfl, happ⟩ := cutWord_append h
    exact ⟨by cases k <;> decide, happ⟩
  | mdString => exact cutMdString_append h
  | string => exact cutString_append h
  | integer => exact cutInteger_append h
  | identifier => exact cutIdentifier_append h
  | oparen | cparen | comma => exact cutChar_append h
  | whitespace => exact cutSpaces_append h

/-- A lexeme uses up some of the text, so that the lexer comes to an end. -/
theorem TokenKind.cut_length {k : TokenKind} {cs l r : List Char} (h : k.cut cs = some (l, r)) :
    r.length < cs.length := by
  obtain ⟨hl, happ⟩ := TokenKind.cut_append h
  have := List.length_pos_iff.2 hl
  rw [← happ, List.length_append]
  omega

/-! ### Tokenizing -/

/-- The first token of a text and the rest: the first rule that applies wins. -/
def nextToken (cs : List Char) : Option (Token × List Char) :=
  TokenKind.order.findSome? fun k => (k.cut cs).map fun (l, r) => (⟨k, l⟩, r)

/-- The first token is cut off by the rule of its kind. -/
theorem nextToken_cut {cs r : List Char} {t : Token} (h : nextToken cs = some (t, r)) :
    t.kind.cut cs = some (t.lexeme, r) := by
  unfold nextToken at h
  obtain ⟨k, _, hk⟩ := List.exists_of_findSome?_eq_some h
  obtain ⟨⟨a, b⟩, hab, he⟩ := Option.map_eq_some_iff.1 hk
  obtain ⟨rfl, rfl⟩ := Prod.mk.inj he
  exact hab

/-- The number of bytes of a text in UTF-8. -/
def byteLength (cs : List Char) : Nat :=
  (String.ofList cs).utf8ByteSize

/-- A place in a text at which no rule applies: what follows it, and the number of bytes in front. -/
structure UndefinedToken where
  remaining : List Char
  offset : Nat
  deriving DecidableEq, Repr

/-- The tokens from the byte `offset` of a text on, white space included, or the first place at which
no rule applies. -/
def scanFrom (offset : Nat) (cs : List Char) : Except UndefinedToken (List Token) :=
  match cs with
  | []       => .ok []
  | c :: cs' =>
    match _h : nextToken (c :: cs') with
    | none           => .error ⟨c :: cs', offset⟩
    | some (t, rest) => (scanFrom (offset + byteLength t.lexeme) rest).map (t :: ·)
termination_by cs.length
decreasing_by exact TokenKind.cut_length (nextToken_cut _h)

/-- The tokens of a text, white space included, or the first place at which no rule applies. -/
def scan (cs : List Char) : Except UndefinedToken (List Token) :=
  scanFrom 0 cs

/-- The tokens of a text, white space included, or the rest of the text from which on no rule
applies. -/
def tokenize (cs : List Char) : Except (List Char) (List Token) :=
  (scan cs).mapError UndefinedToken.remaining

end Adventure.Action
