import Adventure.Proofs.Action.Lexeme

/-!
# Patterns of tokens

Each rule of the lexer stands for a pattern. A pattern may match a front part of a text in several
ways; a matcher that backtracks tries them in a fixed order and takes the first one that leads to
the end of the pattern. The rules need no backtracking, and find the same.

* `Pattern.ways` : all ways in which a pattern matches, in the order in which they are tried.
* `TokenKind.ways_pattern`, `TokenKind.first?_pattern` : what the patterns of tokens match.
-/

namespace Adventure.Action

open Text

/-- A pattern of a front part of a text. -/
inductive Pattern where
  | empty
  /-- One character of a class. -/
  | char (p : Char → Bool)
  /-- The place between a word character and something else. -/
  | boundary
  | seq (a b : Pattern)
  /-- The first pattern rather than the second one. -/
  | alt (a b : Pattern)
  /-- Any number of times, more often rather than less often. -/
  | star (a : Pattern)

/-- A place in a text: what has been matched in front of it, and what follows. -/
abbrev Place := List Char × List Char

namespace Pattern

def text : List Char → Pattern
  | []      => .empty
  | c :: cs => .seq (.char (· == c)) (text cs)

/-- The pattern rather than nothing. -/
def optional (a : Pattern) : Pattern := .alt a .empty

def plus (a : Pattern) : Pattern := .seq a (.star a)

/-! ### Matching -/

/-- There is a word character on one side and none on the other. -/
def isBoundary (x : Place) : Bool :=
  x.1.getLast?.any isWord != x.2.head?.any isWord

/-- Where one comes by a step after the other, as long as something of the text is used up: after
more steps first. -/
def afterSteps (step : Place → List Place) (x : Place) : List Place :=
  ((step x).filter fun y : Place => y.2.length < x.2.length).attach.flatMap
    (fun ⟨y, _⟩ => afterSteps step y) ++ [x]
termination_by x.2.length
decreasing_by
  rename_i hy
  exact of_decide_eq_true (List.mem_filter.1 hy).2

/-- The places at the end of all ways to match a pattern, in the order in which they are tried. -/
def ways : Pattern → Place → List Place
  | .empty,    x           => [x]
  | .char _,   (_, [])     => []
  | .char p,   (l, c :: r) => if p c then [(l ++ [c], r)] else []
  | .boundary, x           => if isBoundary x then [x] else []
  | .seq a b,  x           => (a.ways x).flatMap b.ways
  | .alt a b,  x           => a.ways x ++ b.ways x
  | .star a,   x           => afterSteps a.ways x

/-- What a matcher that backtracks finds at the front of a text: the match and the rest. -/
def first? (a : Pattern) (cs : List Char) : Option (List Char × List Char) :=
  (a.ways ([], cs)).head?

/-- One match more is tried first. -/
lemma ways_star (a : Pattern) (x : Place) :
    (star a).ways x =
      ((a.ways x).filter fun y : Place => y.2.length < x.2.length).flatMap (star a).ways ++
        [x] := by
  have hstar : (star a).ways = afterSteps a.ways := rfl
  rw [hstar, afterSteps]
  simp

/-! ### The ways of simple patterns -/

variable {p : Char → Bool} {l cs : List Char}

/-- The only way, if there is one, from behind what was matched before. -/
def behind (l : List Char) (x : Option (List Char × List Char)) : List Place :=
  (x.map fun y => (l ++ y.1, y.2)).toList

@[simp] lemma behind_none (l : List Char) : behind l none = [] := rfl

@[simp] lemma behind_some (l a r : List Char) : behind l (some (a, r)) = [(l ++ a, r)] := rfl

lemma behind_nil (x : Option (List Char × List Char)) : behind [] x = x.toList := by
  cases x <;> rfl

/-- What was cut off behind something else counts together with it. -/
lemma behind_append (l a : List Char) (x : Option (List Char × List Char)) :
    behind (l ++ a) x = behind l (x.map fun y => (a ++ y.1, y.2)) := by
  cases x <;> simp [behind]

lemma ways_seq (a b : Pattern) (x : Place) :
    (seq a b).ways x = (a.ways x).flatMap b.ways := rfl

lemma ways_alt (a b : Pattern) (x : Place) : (alt a b).ways x = a.ways x ++ b.ways x := rfl

lemma ways_char_cons (p : Char → Bool) (l : List Char) (c : Char) (cs : List Char) :
    (char p).ways (l, c :: cs) = if p c then [(l ++ [c], cs)] else [] := rfl

/-- There is only one way to match a given text. -/
lemma ways_text (w l cs : List Char) :
    (text w).ways (l, cs) = behind l ((dropWord w cs).map fun r => (w, r)) := by
  induction w generalizing l cs with
  | nil => simp [text, ways, dropWord]
  | cons a w ih =>
    rw [text, ways_seq]
    cases cs with
    | nil => rfl
    | cons c cs =>
      rw [ways_char_cons, dropWord]
      by_cases hc : a = c
      · subst hc
        rw [beq_self_eq_true, if_pos rfl, if_pos rfl, List.flatMap_singleton, ih, behind_append,
          Option.map_map]
        rfl
      · rw [if_neg (by simpa using Ne.symm hc), if_neg hc]
        rfl

/-! ### Repeated characters -/

lemma ways_star_char_nil (p : Char → Bool) (l : List Char) :
    (star (char p)).ways (l, []) = [(l, [])] := by
  rw [ways_star]
  rfl

/-- A star over single characters goes on for as long as it can, and gives up the later characters
first. -/
lemma ways_star_char_cons (p : Char → Bool) (l : List Char) (c : Char) (cs : List Char) :
    (star (char p)).ways (l, c :: cs) =
      (if p c then (star (char p)).ways (l ++ [c], cs) else []) ++ [(l, c :: cs)] := by
  rw [ways_star, ways_char_cons]
  split_ifs <;> simp

/-- The longest run is tried first. -/
lemma head?_ways_star_char (p : Char → Bool) (l cs : List Char) :
    ((star (char p)).ways (l, cs)).head? = some (l ++ (cutWhile p cs).1, (cutWhile p cs).2) := by
  induction cs generalizing l with
  | nil => simp [ways_star_char_nil, cutWhile]
  | cons c cs ih =>
    rw [ways_star_char_cons, cutWhile]
    split_ifs with hc
    · simp [ih]
    · simp

/-- What has been matched ends in a word character. -/
def EndsInWord (l : List Char) : Prop := ∃ c ∈ l.getLast?, isWord c = true

lemma endsInWord_append_singleton {c : Char} (hc : isWord c = true) (l : List Char) :
    EndsInWord (l ++ [c]) := ⟨c, by simp, hc⟩

/-- Behind a word character there is a boundary where no word character follows. -/
lemma ways_boundary (hl : EndsInWord l) (r : List Char) :
    boundary.ways (l, r) = behind l (Action.atBoundary [] r) := by
  obtain ⟨c, hc, hword⟩ := hl
  have hboundary : isBoundary (l, r) = atWordEnd r := by
    rw [isBoundary, Option.mem_def.1 hc]
    cases r <;> simp [atWordEnd, hword]
  rw [ways, hboundary, Action.atBoundary]
  split_ifs <;> simp

/-- Inside of a run of word characters there is no boundary, so that only the whole run is left. -/
lemma ways_star_char_boundary (hp : ∀ c, p c = true → isWord c = true) (hl : EndsInWord l)
    (cs : List Char) :
    (seq (star (char p)) boundary).ways (l, cs) =
      behind l (Action.atBoundary (cutWhile p cs).1 (cutWhile p cs).2) := by
  induction cs generalizing l with
  | nil =>
    rw [ways_seq, ways_star_char_nil, List.flatMap_singleton, ways_boundary hl]
    rfl
  | cons c cs ih =>
    rw [ways_seq, ways_star_char_cons, List.flatMap_append, List.flatMap_singleton,
      ways_boundary hl, cutWhile]
    split_ifs with hc
    · have hend : atWordEnd (c :: cs) = false := by simp [atWordEnd, hp c hc]
      rw [← ways_seq, ih (endsInWord_append_singleton (hp c hc) l), behind_append]
      simp [Action.atBoundary, hend, behind]
    · simp

/-- One or more digits up to a boundary, behind anything. -/
lemma ways_digits_boundary (l cs : List Char) :
    (seq (plus (char Char.isDigit)) boundary).ways (l, cs) = behind l (cutDigits cs) := by
  have hword : ∀ c, Char.isDigit c = true → isWord c = true :=
    fun c hc => isWord_of_isAsciiWord (isAsciiWord_of_isDigit hc)
  rw [plus, ways_seq, ways_seq, List.flatMap_assoc]
  show ((char Char.isDigit).ways (l, cs)).flatMap (seq (star (char Char.isDigit)) boundary).ways = _
  cases cs with
  | nil => rfl
  | cons c cs =>
    rw [ways_char_cons, cutDigits, cutWhile]
    split_ifs with hc
    · rw [List.flatMap_singleton,
        ways_star_char_boundary hword (endsInWord_append_singleton (hword c hc) l), behind_append]
      simp [Action.atBoundary, behind]
    · rfl

/-! ### Literals -/

/-- What may stand between the quotes of a literal: a character that is no quote and no backslash,
or a quote behind a backslash. -/
def literalPart : Pattern := .alt (.char fun c => c != '"' && c != '\\') (text ['\\', '"'])

/-- The rest of a literal behind its first quote. -/
def literalRest : Pattern := .seq (.star literalPart) (text ['"'])

lemma ways_quote (l : List Char) (c : Char) (cs : List Char) :
    (text ['"']).ways (l, c :: cs) = if c = '"' then [(l ++ ['"'], cs)] else [] := by
  rw [ways_text]
  by_cases hc : c = '"'
  · simp [dropWord, hc]
  · simp [dropWord, hc, Ne.symm hc]

/-- A part of a literal can be taken in one way at most. -/
lemma ways_literalPart (l : List Char) (c : Char) (cs : List Char) :
    literalPart.ways (l, c :: cs) =
      if c = '\\' then behind l ((dropWord ['"'] cs).map fun r => (['\\', '"'], r))
      else if c = '"' then [] else [(l ++ [c], cs)] := by
  rw [literalPart, ways_alt, ways_char_cons, ways_text, dropWord]
  by_cases hb : c = '\\'
  · simp [hb]
  · simp [hb, Ne.symm hb]

/-- One part more is tried before the closing quote. -/
lemma ways_literalRest_eq (x : Place) :
    literalRest.ways x =
      ((literalPart.ways x).filter fun y : Place => y.2.length < x.2.length).flatMap
        literalRest.ways ++ (text ['"']).ways x := by
  rw [literalRest, ways_seq, ways_star, List.flatMap_append, List.flatMap_singleton,
    List.flatMap_assoc]
  rfl

/-- Where no part of a literal matches, only its closing quote can. -/
lemma ways_literalRest_of_eq_nil {x : Place} (hpart : literalPart.ways x = []) :
    literalRest.ways x = (text ['"']).ways x := by
  rw [ways_literalRest_eq, hpart]
  rfl

/-- Where a part can be taken, the closing quote cannot, so that nothing is left to go back to. -/
lemma ways_literalRest_of_eq {x y : Place} (hpart : literalPart.ways x = [y])
    (hlt : y.2.length < x.2.length) (hquote : (text ['"']).ways x = []) :
    literalRest.ways x = literalRest.ways y := by
  rw [ways_literalRest_eq, hpart, hquote]
  simp [hlt]

/-- There is one way through a literal at most. -/
lemma ways_literalRest (l cs : List Char) :
    literalRest.ways (l, cs) = behind l (cutLiteralRest cs) := by
  fun_induction cutLiteralRest cs generalizing l with
  | case1 =>  -- the end of the text
    rw [ways_literalRest_eq]
    rfl
  | case2 cs =>  -- the closing quote
    rw [ways_literalRest_of_eq_nil (ways_literalPart l '"' cs), ways_quote]
    rfl
  | case3 cs ih =>  -- an escaped quote
    have hlt : cs.length < cs.length + 2 := by omega
    rw [ways_literalRest_of_eq (ways_literalPart l '\\' ('"' :: cs)) hlt
      (ways_quote l '\\' ('"' :: cs)), ih, behind_append]
    rfl
  | case4 cs hq =>  -- any other escape
    have hpart : literalPart.ways (l, '\\' :: cs) = [] := by
      rw [ways_literalPart, if_pos rfl]
      cases cs with
      | nil => rfl
      | cons c cs =>
        have hc : '"' ≠ c := by rintro rfl; exact hq cs rfl
        rw [dropWord, if_neg hc]
        rfl
    rw [ways_literalRest_of_eq_nil hpart, ways_quote]
    rfl
  | case5 c cs hq _ hb ih =>  -- any other character
    have hpart : literalPart.ways (l, c :: cs) = [(l ++ [c], cs)] := by
      rw [ways_literalPart, if_neg hb, if_neg hq]
    have hquote : (text ['"']).ways (l, c :: cs) = [] := by rw [ways_quote, if_neg hq]
    rw [ways_literalRest_of_eq hpart (Nat.lt_succ_self _) hquote, ih, behind_append]
    rfl

end Pattern

/-! ### The patterns of tokens -/

namespace TokenKind

open Pattern

/-- The pattern of a kind of token. -/
def pattern : TokenKind → Pattern
  | .keyword k  => .seq (text k.name.toList) .boundary
  | .mdString   => .seq (text ['m', '"']) literalRest
  | .string     => .seq (text ['"']) literalRest
  | .integer    => .seq (optional (.char fun c => c == '+' || c == '-'))
      (.seq (plus (.char Char.isDigit)) .boundary)
  | .identifier => .seq (.char Char.isAlpha) (.seq (.star (.char isAsciiWord)) .boundary)
  | .oparen     => text ['(']
  | .cparen     => text [')']
  | .comma      => text [',']
  | .whitespace => plus (.char isSpace)

variable (cs : List Char)

/-- There is at most one way to match a keyword: the lexeme that the lexer cuts off. -/
lemma ways_keyword (k : Keyword) :
    (keyword k).pattern.ways ([], cs) = ((keyword k).cut cs).toList := by
  have hend : EndsInWord k.name.toList := by
    cases k <;> exact ⟨_, rfl, by decide⟩
  rw [pattern, ways_seq, ways_text, cut, cutWord]
  cases dropWord k.name.toList cs with
  | none => rfl
  | some r =>
    rw [Option.map_some, behind_some, List.flatMap_singleton, List.nil_append, ways_boundary hend,
      Option.bind_some, Action.atBoundary, Action.atBoundary]
    split_ifs <;> simp

/-- A literal is looked for where its front part ends, and nowhere else. -/
lemma ways_text_literalRest (w : List Char) :
    (Pattern.seq (text w) literalRest).ways ([], cs) =
      ((dropWord w cs).bind fun r => (cutLiteralRest r).map fun (l, r) => (w ++ l, r)).toList := by
  rw [ways_seq, ways_text]
  cases dropWord w cs with
  | none => rfl
  | some r =>
    rw [Option.map_some, behind_some, List.flatMap_singleton, ways_literalRest, behind]
    rfl

lemma cutString_eq_dropWord :
    cutString cs =
      (dropWord ['"'] cs).bind fun r => (cutLiteralRest r).map fun (l, r) => ('"' :: l, r) := by
  unfold cutString
  split
  · simp [dropWord]
  · next hne =>
    cases cs with
    | nil => rfl
    | cons c cs =>
      have hc : '"' ≠ c := by rintro rfl; exact hne cs rfl
      rw [dropWord, if_neg hc]
      rfl

lemma cutMdString_eq_dropWord :
    cutMdString cs = (dropWord ['m', '"'] cs).bind fun r =>
      (cutLiteralRest r).map fun (l, r) => ('m' :: '"' :: l, r) := by
  cases cs with
  | nil => rfl
  | cons c cs =>
    by_cases hc : 'm' = c
    · subst hc
      rw [cutMdString_eq, cutString_eq_dropWord, dropWord, if_pos rfl, Option.map_bind]
      simp [Option.map_map, Function.comp_def]
    · rw [dropWord, if_neg hc, cutMdString.eq_2]
      · rfl
      · rintro _ ⟨rfl, -⟩
        exact hc rfl

/-- No digits start with a sign, so that a sign is never left out. -/
lemma ways_integer : integer.pattern.ways ([], cs) = (integer.cut cs).toList := by
  have hsign : (optional (char fun c => c == '+' || c == '-')).ways ([], cs) =
      (char fun c => c == '+' || c == '-').ways ([], cs) ++ [([], cs)] := rfl
  -- The sign is optional: the pattern is tried behind it first, and then without it. A sign is no
  -- digit, so at most one of the two matches.
  rw [pattern, ways_seq, hsign, List.flatMap_append, List.flatMap_singleton, ways_digits_boundary,
    behind_nil, cut]
  unfold cutInteger
  split
  · rw [ways_char_cons]
    simp [ways_digits_boundary, cutDigits, cutWhile, behind]
  · rw [ways_char_cons]
    simp [ways_digits_boundary, cutDigits, cutWhile, behind]
  · next hplus hminus =>
    cases cs with
    | nil => rfl
    | cons c cs =>
      have hc : (c == '+' || c == '-') = false := by
        rw [Bool.or_eq_false_iff, beq_eq_false_iff_ne, beq_eq_false_iff_ne]
        exact ⟨fun h => hplus cs (by rw [h]), fun h => hminus cs (by rw [h])⟩
      rw [ways_char_cons, hc]
      rfl

/-- There is at most one way to match an identifier, since the boundary matches only where the word
ends. -/
lemma ways_identifier : identifier.pattern.ways ([], cs) = (identifier.cut cs).toList := by
  have hword : ∀ c, isAsciiWord c = true → isWord c = true := fun _ => isWord_of_isAsciiWord
  rw [pattern, ways_seq]
  cases cs with
  | nil => rfl
  | cons c cs =>
    rw [ways_char_cons, cut, cutIdentifier]
    split_ifs with hc
    · have hend : EndsInWord [c] := ⟨c, rfl, hword c (isAsciiWord_of_isAlpha hc)⟩
      rw [List.flatMap_singleton, List.nil_append, ways_star_char_boundary hword hend]
      simp [Action.atBoundary, behind]
    · rfl

lemma ways_mark (x : Char) : (text [x]).ways ([], cs) = (cutChar x cs).toList := by
  rw [ways_text, behind_nil]
  cases cs with
  | nil => rfl
  | cons c cs =>
    by_cases hc : x = c
    · simp [dropWord, cutChar, hc]
    · simp [dropWord, cutChar, hc, Ne.symm hc]

/-- Every pattern but the one of white space matches in one way at most: what the rule cuts off. -/
theorem ways_pattern {k : TokenKind} (hk : k ≠ .whitespace) :
    k.pattern.ways ([], cs) = (k.cut cs).toList := by
  cases k with
  | keyword k => exact ways_keyword cs k
  | mdString => rw [pattern, ways_text_literalRest, cut, cutMdString_eq_dropWord]; rfl
  | string => rw [pattern, ways_text_literalRest, cut, cutString_eq_dropWord]; rfl
  | integer => exact ways_integer cs
  | identifier => exact ways_identifier cs
  | oparen | cparen | comma => exact ways_mark cs _
  | whitespace => exact absurd rfl hk

/-- A rule cuts off what its pattern matches first. -/
theorem first?_pattern (k : TokenKind) : k.pattern.first? cs = k.cut cs := by
  by_cases hk : k = .whitespace
  · subst hk
    rw [first?, pattern, plus, ways_seq]
    cases cs with
    | nil => rfl
    | cons c cs =>
      rw [ways_char_cons, cut, cutSpaces, cutWhile]
      split_ifs
      · rw [List.flatMap_singleton, head?_ways_star_char]
        rfl
      · rfl
  · rw [first?, ways_pattern cs hk]
    cases k.cut cs <;> rfl

end TokenKind

end Adventure.Action
