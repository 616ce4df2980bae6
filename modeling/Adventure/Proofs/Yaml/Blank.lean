import Adventure.Yaml.Reading
import Mathlib.Data.List.Basic
import Mathlib.Tactic.Common

/-!
# Texts without content

A text holds no document if there is nothing in its lines but blanks and comments. Lines end at the
line breaks of YAML, of which there are more than the line feed.

* `Lexer.exists_skipSpace_eq` : what the space in front of the first token is.
* `Document.ofText?_eq_missing_iff` : which texts hold no document.
-/

namespace Adventure.Yaml

variable {line cs rest text : List Char} {b : Char}

/-! ### Lines -/

/-- A line without content: blanks, and maybe a comment after them. A byte order mark may stand at
the start of a line. -/
structure IsBlankLine (line : List Char) : Prop where
  exists_eq : ∃ mark blanks comment, line = mark ++ (blanks ++ comment) ∧
    (mark = [] ∨ mark = ['\ufeff']) ∧ (∀ c ∈ blanks, c = ' ') ∧
    (comment = [] ∨ comment.head? = some '#')
  isBreak_eq : ∀ c ∈ line, isBreak c = false

/-- There is nothing in the lines of the text but blanks and comments. -/
inductive IsContentless : List Char → Prop
  | last {line : List Char} (h : IsBlankLine line) : IsContentless line
  | line {line rest : List Char} {b : Char} (h : IsBlankLine line) (hb : isBreak b = true)
      (hrest : IsContentless rest) : IsContentless (line ++ b :: rest)

lemma isBlankLine_append {mark blanks comment : List Char}
    (hmark : mark = [] ∨ mark = ['\ufeff']) (hblanks : ∀ c ∈ blanks, c = ' ')
    (hcomment : comment = [] ∨ comment.head? = some '#')
    (hbreak : ∀ c ∈ comment, isBreak c = false) : IsBlankLine (mark ++ (blanks ++ comment)) := by
  refine ⟨⟨mark, blanks, comment, rfl, hmark, hblanks, hcomment⟩, ?_⟩
  simp only [List.forall_mem_append]
  refine ⟨?_, ?_, hbreak⟩
  · rcases hmark with rfl | rfl
    · exact List.forall_mem_nil _
    · exact List.forall_mem_singleton.2 rfl
  · intro c hc
    rw [hblanks c hc]
    rfl

lemma isBlankLine_nil : IsBlankLine [] :=
  isBlankLine_append (.inl rfl) (List.forall_mem_nil _) (.inl rfl) (List.forall_mem_nil _)

/-- The first line of a text ends at the first line break. -/
lemma isContentless_append_iff (h : IsBlankLine line) (hb : isBreak b = true) :
    IsContentless (line ++ b :: rest) ↔ IsContentless rest := by
  constructor
  · intro hcs
    generalize heq : line ++ b :: rest = cs at hcs
    cases hcs with
    | last hlast =>
      have hbreak := hlast.isBreak_eq b (by simp [← heq])
      exact absurd hbreak (by simp [hb])
    | @line line' rest' b' h' hb' hrest =>
      have hdrop : ∀ (line rest : List Char) (b : Char), IsBlankLine line → isBreak b = true →
          (line ++ b :: rest).dropWhile (fun c => !isBreak c) = b :: rest := by
        intro line rest b h hb
        rw [List.dropWhile_append_of_pos (by simpa using h.isBreak_eq),
          List.dropWhile_cons_of_neg (by simp [hb])]
      have htail := hdrop line rest b h hb
      rw [heq, hdrop line' rest' b' h' hb'] at htail
      rw [← (List.cons.inj htail).2]
      exact hrest
  · exact .line h hb

/-! ### Positions -/

namespace Cursor

variable {c : Cursor}

lemma rest_skipWhile (p : Char → Bool) (c : Cursor) :
    (c.skipWhile p).rest = c.rest.dropWhile p := by
  have hle : (c.rest.takeWhile p).length ≤ c.rest.length := (List.takeWhile_prefix p).length_le
  have hdrop : (c.rest.takeWhile p ++ c.rest.dropWhile p).drop (c.rest.takeWhile p).length =
      c.rest.dropWhile p := List.drop_left ..
  rw [List.takeWhile_append_dropWhile] at hdrop
  simp only [skipWhile, takeWhile, skip, Nat.min_eq_left hle, hdrop]

lemma rest_next (c : Cursor) : c.next.rest = c.rest.tail := by
  unfold next
  split <;> simp_all

/-- The position behind the blanks and the comment of a line that starts here. -/
def lineEnd (c : Cursor) : Cursor :=
  ((if c.isAt '\ufeff' then c.next else c).skipWhile (· == ' ')).skipComment

lemma rest_skipComment (c : Cursor) :
    c.skipComment.rest =
      if c.rest.head? = some '#' then c.rest.dropWhile fun ch => !isBreak ch else c.rest := by
  unfold skipComment isAt
  by_cases h : c.rest.head? = some '#'
  · rw [if_pos (by simpa using h), if_pos h, rest_skipWhile]
  · rw [if_neg (by simpa using h), if_neg h]

lemma rest_lineEnd (c : Cursor) :
    c.lineEnd.rest =
      let cs := if c.isAt '\ufeff' then c.rest.tail else c.rest
      let cs := cs.dropWhile (· == ' ')
      if cs.head? = some '#' then cs.dropWhile fun ch => !isBreak ch else cs := by
  rw [lineEnd, rest_skipComment, rest_skipWhile]
  split_ifs <;> simp_all [rest_next]

/-- What is passed over in a line is blanks and a comment. -/
lemma exists_rest_eq (c : Cursor) : ∃ line, IsBlankLine line ∧ c.rest = line ++ c.lineEnd.rest := by
  rw [rest_lineEnd]
  -- What is passed has three parts: a byte order mark, blanks, and a comment up to the next break.
  obtain ⟨mark, hmark, hrest⟩ : ∃ mark, (mark = [] ∨ mark = ['\ufeff']) ∧
      c.rest = mark ++ (if c.isAt '\ufeff' then c.rest.tail else c.rest) := by
    split_ifs with hat
    · refine ⟨['\ufeff'], .inr rfl, (List.cons_head?_tail ?_).symm⟩
      simpa [isAt] using hat
    · exact ⟨[], .inl rfl, rfl⟩
  generalize (if c.isAt '\ufeff' then c.rest.tail else c.rest) = cs at hrest ⊢
  have hblanks : ∀ ch ∈ cs.takeWhile (· == ' '), ch = ' ' := by
    simpa using List.all_eq_true.1 (List.all_takeWhile (l := cs) (p := (· == ' ')))
  have hspaces := List.takeWhile_append_dropWhile (p := (· == ' ')) (l := cs)
  dsimp only
  split_ifs with hcomment
  · generalize cs.dropWhile (· == ' ') = cs' at hspaces hcomment ⊢
    have hsplit := List.takeWhile_append_dropWhile (p := fun ch => !isBreak ch) (l := cs')
    have hbreak : ∀ ch ∈ cs'.takeWhile fun ch => !isBreak ch, isBreak ch = false := by
      simpa using List.all_eq_true.1 (List.all_takeWhile (l := cs') (p := fun ch => !isBreak ch))
    refine ⟨_, isBlankLine_append hmark hblanks (.inr ?_) hbreak, ?_⟩
    · obtain ⟨tail, rfl⟩ := List.head?_eq_some_iff.1 hcomment
      rfl
    · rw [hrest, List.append_assoc, List.append_assoc, hsplit, hspaces]
  · refine ⟨_, isBlankLine_append hmark hblanks (.inl rfl) (List.forall_mem_nil _), ?_⟩
    rw [hrest, List.append_nil, List.append_assoc, hspaces]

/-- The blanks and the comment of a line go on until its break. -/
lemma rest_lineEnd_of_isBlankLine (h : IsBlankLine line) (hc : c.rest = line ++ rest)
    (hrest : rest.head?.all isBreak = true) : c.lineEnd.rest = rest := by
  obtain ⟨⟨mark, blanks, comment, rfl, hmark, hblanks, hcomment⟩, hbreak⟩ := h
  -- No part of the line can be taken for the one in front of it.
  have hbehind : ∀ ch ∈ (comment ++ rest).head?, ch = '#' ∨ isBreak ch = true := by
    rcases hcomment with rfl | hcomment
    · intro ch hch
      rw [List.nil_append, Option.mem_def] at hch
      rw [hch] at hrest
      exact .inr hrest
    · obtain ⟨tail, rfl⟩ := List.head?_eq_some_iff.1 hcomment
      simp
  have hbehind' : ∀ ch ∈ (blanks ++ (comment ++ rest)).head?,
      ch = ' ' ∨ ch = '#' ∨ isBreak ch = true := by
    cases blanks with
    | nil => exact fun ch hch => .inr (hbehind ch hch)
    | cons blank blanks => simpa using .inl (hblanks blank (List.mem_cons_self ..))
  have hunmarked : (if c.isAt '\ufeff' then c.rest.tail else c.rest) =
      blanks ++ (comment ++ rest) := by
    rcases hmark with rfl | rfl
    · rw [List.nil_append, List.append_assoc] at hc
      rw [hc, if_neg]
      intro hat
      have hhead : '\ufeff' ∈ (blanks ++ (comment ++ rest)).head? := by
        simpa [Cursor.isAt, hc] using hat
      exact absurd (hbehind' _ hhead) (by decide)
    · simp [Cursor.isAt, hc]
  have hdrop : (blanks ++ (comment ++ rest)).dropWhile (· == ' ') = comment ++ rest := by
    rw [List.dropWhile_append_of_pos (by simpa using hblanks)]
    cases hcs : comment ++ rest with
    | nil => rfl
    | cons ch tail =>
      apply List.dropWhile_cons_of_neg
      rcases hbehind ch (by simp [hcs]) with rfl | hch
      · decide
      · rintro heq
        rw [beq_iff_eq.1 heq] at hch
        cases hch
  rw [rest_lineEnd, hunmarked]
  dsimp only
  rw [hdrop]
  rcases hcomment with rfl | hcomment
  · rw [List.nil_append, if_neg]
    intro hhead
    rw [hhead] at hrest
    cases hrest
  · obtain ⟨tail, rfl⟩ := List.head?_eq_some_iff.1 hcomment
    have hinside : ∀ ch ∈ '#' :: tail, (!isBreak ch) = true := by
      intro ch hch
      rw [hbreak ch (by simp [hch]), Bool.not_false]
    rw [if_pos (by simp), List.dropWhile_append_of_pos hinside]
    cases rest with
    | nil => rfl
    | cons b rest => exact List.dropWhile_cons_of_neg (by simpa using hrest)

/-- A line break is one character, or a carriage return and a line feed. -/
lemma exists_skipBreak (h : c.atBreak = true) : ∃ b rest, c.rest = b :: rest ∧ isBreak b = true ∧
    c.skipBreak.column = 0 ∧
    (c.skipBreak.rest = rest ∨ rest = '\n' :: c.skipBreak.rest) := by
  unfold skipBreak takeBreak
  unfold atBreak at h
  split
  · next rest hrest => exact ⟨'\r', '\n' :: rest, hrest, rfl, rfl, .inr rfl⟩
  · next b rest _ hrest =>
    have hb : isBreak b = true := by simpa [hrest] using h
    refine ⟨b, rest, hrest, hb, ?_⟩
    split_ifs <;> exact ⟨rfl, .inl rfl⟩
  · next hrest => simp [hrest] at h

lemma length_skipBreak (h : c.atBreak = true) : c.skipBreak.rest.length < c.rest.length := by
  obtain ⟨b, rest, hrest, -, -, rfl | rfl⟩ := exists_skipBreak h
  · simp [hrest]
  · simp only [hrest, List.length_cons]
    omega

/-- Between a carriage return and the line feed behind it there is no content. -/
lemma isContentless_append_rest_iff (h : c.atBreak = true) (hline : IsBlankLine line) :
    IsContentless (line ++ c.rest) ↔ IsContentless c.skipBreak.rest := by
  obtain ⟨b, rest, hrest, hb, -, rfl | rfl⟩ := exists_skipBreak h
  · rw [hrest, isContentless_append_iff hline hb]
  · rw [hrest, isContentless_append_iff hline hb]
    exact isContentless_append_iff isBlankLine_nil rfl

end Cursor

/-! ### In front of the first token -/

namespace Lexer

/-- Nothing but space has been read in the line, and a key may start. -/
structure AtLineStart (s : Lexer) : Prop where
  column : s.cursor.column = 0
  keyAllowed : s.keyAllowed = true
  outerKeys : s.outerKeys = []

/-- From the start of a line the lexer passes what has no content, and goes on in the next line if
it comes to the end of this one. -/
lemma skipSpace_succ {s : Lexer} (h : s.AtLineStart) (fuel : Nat) :
    skipSpace (fuel + 1) s =
      if s.cursor.lineEnd.atBreak then
        skipSpace fuel { s with cursor := s.cursor.lineEnd.skipBreak }
      else { s with cursor := s.cursor.lineEnd } := by
  obtain ⟨hcolumn, hkey, houter⟩ := h
  rw [skipSpace]
  simp [inFlow, hcolumn, hkey, houter, Cursor.lineEnd]

/-- The space in front of the first token ends the text exactly if the text has no content. -/
lemma exists_skipSpace_eq {s : Lexer} (h : s.AtLineStart) {fuel : Nat}
    (hfuel : s.cursor.rest.length < fuel) :
    ∃ c, skipSpace fuel s = { s with cursor := c } ∧
      (c.rest = [] ↔ IsContentless s.cursor.rest) := by
  -- By induction on the fuel. After each line that is passed the lexer is again at the start of a
  -- line, and less is left of the text.
  induction fuel generalizing s with
  | zero => exact absurd hfuel (Nat.not_lt_zero _)
  | succ fuel ih =>
    obtain ⟨line, hline, hrest⟩ := s.cursor.exists_rest_eq
    rw [skipSpace_succ h]
    split_ifs with hbreak
    · have hlength := Cursor.length_skipBreak hbreak
      obtain ⟨-, -, -, -, hcolumn, -⟩ := Cursor.exists_skipBreak hbreak
      have hle : s.cursor.lineEnd.rest.length ≤ s.cursor.rest.length := by
        rw [hrest, List.length_append]
        exact Nat.le_add_left ..
      obtain ⟨c, hc, hiff⟩ := ih (s := { s with cursor := s.cursor.lineEnd.skipBreak })
        ⟨hcolumn, h.keyAllowed, h.outerKeys⟩ (by dsimp only; omega)
      refine ⟨c, hc, hiff.trans ?_⟩
      rw [hrest, Cursor.isContentless_append_rest_iff hbreak hline]
    · refine ⟨s.cursor.lineEnd, rfl, ?_⟩
      constructor
      · intro hend
        rw [hrest, hend, List.append_nil]
        exact .last hline
      · intro hcontentless
        generalize hcs : s.cursor.rest = cs at hcontentless
        cases hcontentless with
        | last hlast =>
          exact Cursor.rest_lineEnd_of_isBlankLine hlast (by rw [hcs, List.append_nil]) rfl
        | line hfirst hb _ =>
          have hend := Cursor.rest_lineEnd_of_isBlankLine hfirst hcs (by simpa using hb)
          exact absurd (by simpa [Cursor.atBreak, hend] using hb) hbreak

/-! ### The first token -/

/-- At the end of the text, with nothing open, the next token is that of the end. -/
lemma step_of_rest_eq_nil {s : Lexer} {c : Cursor} (hkey : s.key = none) (houter : s.outerKeys = [])
    (hindents : s.indents = [])
    (hskip : s.skipSpace (s.cursor.rest.length + 1) = { s with cursor := c }) (hc : c.rest = []) :
    ∃ s', s.step = some s' ∧ s'.tokens = .streamEnd :: s.tokens := by
  unfold step
  rw [hskip]
  simp [dropStaleKeys, unroll, inFlow, hkey, houter, hindents, Cursor.head?, hc, endStream, dropKey,
    push]

/-- Tokens have been read, and none of them is the end of the text. -/
structure HasBegun (s : Lexer) : Prop where
  tokens_ne_nil : s.tokens ≠ []
  streamEnd_notMem : .streamEnd ∉ s.tokens

variable {s s' : Lexer} {t : Token}

lemma hasBegun_of_tokens_eq {ts : List Token} (hs : s.tokens = t :: ts) (ht : t ≠ .streamEnd)
    (h : .streamEnd ∉ ts) : s.HasBegun := by
  refine ⟨by simp [hs], ?_⟩
  rw [hs, List.mem_cons, not_or]
  exact ⟨ht.symm, h⟩

lemma streamEnd_notMem_insert (h : .streamEnd ∉ s.tokens) (ht : t ≠ .streamEnd) (n : Nat) :
    .streamEnd ∉ (s.insert n t).tokens := by
  rw [insert]
  simp only [List.mem_append, List.mem_cons, not_or]
  exact ⟨mt (List.mem_of_mem_take ·) h, ht.symm, mt (List.mem_of_mem_drop ·) h⟩

/-- The tokens are those that were there, behind the ends of blocks. -/
lemma exists_tokens_unroll_eq (s : Lexer) (column : Option Nat) :
    ∃ n, (s.unroll column).tokens = List.replicate n .blockEnd ++ s.tokens := by
  unfold unroll
  split_ifs
  · exact ⟨0, rfl⟩
  · exact ⟨_, rfl⟩

lemma streamEnd_notMem_unroll (h : .streamEnd ∉ s.tokens) (column : Option Nat) :
    .streamEnd ∉ (s.unroll column).tokens := by
  obtain ⟨n, hn⟩ := exists_tokens_unroll_eq s column
  simp [hn, h]

lemma cursor_unroll (s : Lexer) (column : Option Nat) : (s.unroll column).cursor = s.cursor := by
  unfold unroll
  split_ifs <;> rfl

lemma streamEnd_notMem_roll (h : .streamEnd ∉ s.tokens) (ht : t ≠ .streamEnd) (column n : Nat) :
    .streamEnd ∉ (s.roll column n t).tokens := by
  unfold roll
  split_ifs
  · exact h
  · exact streamEnd_notMem_insert h ht n

lemma tokens_of_dropKey (h : s.dropKey = some s') : s'.tokens = s.tokens := by
  unfold dropKey at h
  split_ifs at h
  rw [← Option.some.inj h]

lemma tokens_of_saveKey (h : s.saveKey = some s') : s'.tokens = s.tokens := by
  unfold saveKey at h
  split_ifs at h
  · obtain ⟨s₁, hs₁, rfl⟩ := Option.map_eq_some_iff.1 h
    show s₁.tokens = s.tokens
    exact tokens_of_dropKey hs₁
  · rw [← Option.some.inj h]

lemma eq_of_dropStaleKeys (h : s.dropStaleKeys = some s') :
    s'.tokens = s.tokens ∧ s'.cursor = s.cursor := by
  unfold dropStaleKeys at h
  dsimp only at h
  split_ifs at h
  rw [← Option.some.inj h]
  exact ⟨rfl, rfl⟩

/-- To pass space adds no token. -/
lemma tokens_skipSpace (fuel : Nat) (s : Lexer) : (s.skipSpace fuel).tokens = s.tokens := by
  induction fuel generalizing s with
  | zero => rfl
  | succ fuel ih =>
    rw [skipSpace]
    split_ifs <;> first | rfl | exact ih _

lemma takeDirectiveText_ne_streamEnd {c c' : Cursor} (h : takeDirectiveText c = some (t, c')) :
    t ≠ .streamEnd := by
  unfold takeDirectiveText at h
  dsimp only at h
  split_ifs at h
  · obtain ⟨⟨major, c₁⟩, -, h⟩ := Option.bind_eq_some_iff.1 h
    dsimp only at h
    split_ifs at h
    obtain ⟨_, -, h⟩ := Option.map_eq_some_iff.1 h
    rw [← (Prod.mk.inj h).1]
    exact nofun
  · unfold takeHandleStart at h
    dsimp only at h
    split_ifs at h
    obtain ⟨_, -, h⟩ := Option.map_eq_some_iff.1 h
    rw [← (Prod.mk.inj h).1]
    exact nofun

lemma takeDirective_ne_streamEnd {c c' : Cursor} (h : takeDirective c = some (t, c')) :
    t ≠ .streamEnd := by
  obtain ⟨⟨t', c₁⟩, ht, h⟩ := Option.bind_eq_some_iff.1 h
  obtain rfl : t' = t := by
    dsimp only at h
    split_ifs at h
    simpa using congrArg (Option.map Prod.fst) h
  exact takeDirectiveText_ne_streamEnd ht

lemma hasBegun_directive (h : .streamEnd ∉ s.tokens) (hs : s.directive = some s') :
    s'.HasBegun := by
  obtain ⟨s₁, hs₁, hs⟩ := Option.bind_eq_some_iff.1 hs
  obtain ⟨⟨t, c⟩, ht, hs⟩ := Option.bind_eq_some_iff.1 hs
  obtain rfl := Option.some.inj hs
  refine hasBegun_of_tokens_eq rfl (takeDirective_ne_streamEnd ht) ?_
  rw [tokens_of_dropKey hs₁]
  exact streamEnd_notMem_unroll h _

lemma hasBegun_documentMark (h : .streamEnd ∉ s.tokens) (ht : t ≠ .streamEnd)
    (hs : s.documentMark t = some s') : s'.HasBegun := by
  obtain ⟨s₁, hs₁, rfl⟩ := Option.map_eq_some_iff.1 hs
  refine hasBegun_of_tokens_eq rfl ht ?_
  rw [tokens_of_dropKey hs₁]
  exact streamEnd_notMem_unroll h _

lemma hasBegun_openFlow (h : .streamEnd ∉ s.tokens) (ht : t ≠ .streamEnd)
    (hs : s.openFlow t = some s') : s'.HasBegun := by
  obtain ⟨s₁, hs₁, rfl⟩ := Option.map_eq_some_iff.1 hs
  exact hasBegun_of_tokens_eq rfl ht (by rwa [tokens_of_saveKey hs₁])

lemma hasBegun_closeFlow (h : .streamEnd ∉ s.tokens) (ht : t ≠ .streamEnd)
    (hs : s.closeFlow t = some s') : s'.HasBegun := by
  obtain ⟨s₁, hs₁, rfl⟩ := Option.map_eq_some_iff.1 hs
  exact hasBegun_of_tokens_eq rfl ht (by rwa [tokens_of_dropKey hs₁])

lemma hasBegun_comma (h : .streamEnd ∉ s.tokens) (hs : s.comma = some s') : s'.HasBegun := by
  obtain ⟨s₁, hs₁, rfl⟩ := Option.map_eq_some_iff.1 hs
  exact hasBegun_of_tokens_eq rfl nofun (by rwa [tokens_of_dropKey hs₁])

lemma hasBegun_entry (h : .streamEnd ∉ s.tokens) (hs : s.entry = some s') : s'.HasBegun := by
  unfold entry at hs
  split_ifs at hs
  · cases hs
  · obtain ⟨s₁, hs₁, hs⟩ := Option.bind_eq_some_iff.1 hs
    obtain rfl := Option.some.inj hs
    refine hasBegun_of_tokens_eq rfl nofun ?_
    rw [tokens_of_dropKey hs₁]
    exact streamEnd_notMem_roll h (by simp) _ _

lemma hasBegun_complexKey (h : .streamEnd ∉ s.tokens) (hs : s.complexKey = some s') :
    s'.HasBegun := by
  unfold complexKey at hs
  split_ifs at hs
  · cases hs
  · obtain ⟨s₁, hs₁, hs⟩ := Option.bind_eq_some_iff.1 hs
    obtain rfl := Option.some.inj hs
    refine hasBegun_of_tokens_eq rfl nofun ?_
    rw [tokens_of_dropKey hs₁]
    exact streamEnd_notMem_roll h (by simp) _ _

/-- Before a colon, a key may have to be marked first. Either way tokens have been read. -/
lemma hasBegun_value (h : .streamEnd ∉ s.tokens) (hs : s.value = some s') : s'.HasBegun := by
  unfold value at hs
  dsimp only at hs
  split at hs
  · obtain rfl := Option.some.inj hs
    refine hasBegun_of_tokens_eq rfl nofun ?_
    exact streamEnd_notMem_roll (streamEnd_notMem_insert h (by simp) _) (by simp) _ _
  · split_ifs at hs
    obtain rfl := Option.some.inj hs
    exact hasBegun_of_tokens_eq rfl nofun (streamEnd_notMem_roll h (by simp) _ _)

lemma hasBegun_anchor {name : List Char → Token} (h : .streamEnd ∉ s.tokens)
    (ht : ∀ cs, name cs ≠ .streamEnd) (hs : s.anchor name = some s') : s'.HasBegun := by
  obtain ⟨s₁, hs₁, hs⟩ := Option.bind_eq_some_iff.1 hs
  obtain ⟨⟨cs, c⟩, -, hs⟩ := Option.bind_eq_some_iff.1 hs
  obtain rfl := Option.some.inj hs
  exact hasBegun_of_tokens_eq rfl (ht cs) (by rwa [tokens_of_saveKey hs₁])

lemma hasBegun_tag (h : .streamEnd ∉ s.tokens) (hs : s.tag = some s') : s'.HasBegun := by
  obtain ⟨s₁, hs₁, hs⟩ := Option.bind_eq_some_iff.1 hs
  obtain ⟨⟨name, c⟩, -, hs⟩ := Option.bind_eq_some_iff.1 hs
  obtain rfl := Option.some.inj hs
  exact hasBegun_of_tokens_eq rfl nofun (by rwa [tokens_of_saveKey hs₁])

lemma hasBegun_block {folded : Bool} (h : .streamEnd ∉ s.tokens) (hs : s.block folded = some s') :
    s'.HasBegun := by
  obtain ⟨s₁, hs₁, hs⟩ := Option.bind_eq_some_iff.1 hs
  obtain ⟨⟨cs, c⟩, -, hs⟩ := Option.bind_eq_some_iff.1 hs
  obtain rfl := Option.some.inj hs
  exact hasBegun_of_tokens_eq rfl nofun (by rwa [tokens_of_dropKey hs₁])

lemma hasBegun_quoted {style : QuoteStyle} (h : .streamEnd ∉ s.tokens)
    (hs : s.quoted style = some s') : s'.HasBegun := by
  obtain ⟨s₁, hs₁, hs⟩ := Option.bind_eq_some_iff.1 hs
  obtain ⟨⟨cs, c⟩, -, hs⟩ := Option.bind_eq_some_iff.1 hs
  obtain rfl := Option.some.inj hs
  exact hasBegun_of_tokens_eq rfl nofun (by rwa [tokens_of_saveKey hs₁])

lemma hasBegun_plain (h : .streamEnd ∉ s.tokens) (hs : s.plain = some s') : s'.HasBegun := by
  obtain ⟨s₁, hs₁, hs⟩ := Option.bind_eq_some_iff.1 hs
  obtain ⟨scalar, -, hs⟩ := Option.bind_eq_some_iff.1 hs
  obtain rfl := Option.some.inj hs
  exact hasBegun_of_tokens_eq rfl nofun (by rwa [tokens_of_saveKey hs₁])

lemma hasBegun_of_ite {p : Prop} [Decidable p] {a b : Option Lexer}
    (ha : a = some s' → s'.HasBegun) (hb : b = some s' → s'.HasBegun)
    (h : (if p then a else b) = some s') : s'.HasBegun := by
  split_ifs at h
  · exact ha h
  · exact hb h

/-- Whatever the next token starts with, tokens have been read after it, and the text has not ended.
-/
lemma hasBegun_readToken {ch : Char} (h : .streamEnd ∉ s.tokens)
    (hs : s.readToken ch = some s') : s'.HasBegun := by
  revert hs
  -- One alternative for each token, in the order in which the lexer tries them.
  refine hasBegun_of_ite (hasBegun_directive h) <|
    hasBegun_of_ite (hasBegun_documentMark h nofun) <|
    hasBegun_of_ite (hasBegun_documentMark h nofun) <|
    hasBegun_of_ite (hasBegun_openFlow h nofun) <|
    hasBegun_of_ite (hasBegun_openFlow h nofun) <|
    hasBegun_of_ite (hasBegun_closeFlow h nofun) <|
    hasBegun_of_ite (hasBegun_closeFlow h nofun) <|
    hasBegun_of_ite (hasBegun_comma h) <|
    hasBegun_of_ite (hasBegun_entry h) <|
    hasBegun_of_ite (hasBegun_complexKey h) <|
    hasBegun_of_ite (hasBegun_value h) <|
    hasBegun_of_ite (hasBegun_anchor h nofun) <|
    hasBegun_of_ite (hasBegun_anchor h nofun) <|
    hasBegun_of_ite (hasBegun_tag h) <|
    hasBegun_of_ite (hasBegun_block h) <|
    hasBegun_of_ite (hasBegun_block h) <|
    hasBegun_of_ite (hasBegun_quoted h) <|
    hasBegun_of_ite (hasBegun_quoted h) <|
    hasBegun_of_ite (hasBegun_plain h) nofun

/-! ### All tokens -/

/-- A step closes blocks, and reads what stands behind the space: a token or the end of the text. -/
lemma exists_of_step (hs : s.step = some s') : ∃ s₁ : Lexer,
    s₁.cursor = (s.skipSpace (s.cursor.rest.length + 1)).cursor ∧
    (∃ n, s₁.tokens = List.replicate n .blockEnd ++ s.tokens) ∧
    (s₁.cursor.rest = [] ∧ s₁.endStream = some s' ∨
      ∃ ch, s₁.cursor.head? = some ch ∧ s₁.readToken ch = some s') := by
  obtain ⟨s₁, hs₁, hs⟩ := Option.bind_eq_some_iff.1 hs
  obtain ⟨htokens, hcursor⟩ := eq_of_dropStaleKeys hs₁
  refine ⟨s₁.unroll (some s₁.cursor.column), ?_, ?_, ?_⟩
  · rw [cursor_unroll, hcursor]
  · rw [← tokens_skipSpace (s.cursor.rest.length + 1) s, ← htokens]
    exact exists_tokens_unroll_eq ..
  · dsimp only at hs
    split at hs
    · next hhead => exact .inl ⟨List.head?_eq_none_iff.1 hhead, hs⟩
    · next ch hhead => exact .inr ⟨ch, hhead, hs⟩

/-- The first step reads a token unless the text ends. -/
lemma hasBegun_of_step (h : s.tokens = []) (hs : s.step = some s')
    (hrest : (s.skipSpace (s.cursor.rest.length + 1)).cursor.rest ≠ []) : s'.HasBegun := by
  obtain ⟨s₁, hcursor, ⟨n, htokens⟩, ⟨hend, -⟩ | ⟨ch, -, hread⟩⟩ := exists_of_step hs
  · exact absurd (hcursor ▸ hend) hrest
  · refine hasBegun_readToken ?_ hread
    simp [htokens, h]

/-- A step reads a token, or the end of the text behind those that have been read. -/
lemma HasBegun.step (h : s.HasBegun) (hs : s.step = some s') :
    s'.HasBegun ∨ ∃ ts, s'.tokens = .streamEnd :: ts ∧ ts ≠ [] ∧ .streamEnd ∉ ts := by
  obtain ⟨s₁, -, ⟨n, htokens⟩, hread⟩ := exists_of_step hs
  have hmem : .streamEnd ∉ s₁.tokens := by simp [htokens, h.streamEnd_notMem]
  rcases hread with ⟨-, hend⟩ | ⟨ch, -, hread⟩
  · right
    obtain ⟨s₂, hs₂, rfl⟩ := Option.map_eq_some_iff.1 hend
    refine ⟨s₂.tokens, rfl, ?_, ?_⟩ <;> rw [tokens_of_dropKey hs₂]
    · obtain ⟨m, hm⟩ := exists_tokens_unroll_eq s₁ none
      simp [hm, htokens, h.tokens_ne_nil]
    · exact streamEnd_notMem_unroll hmem _
  · exact .inl (hasBegun_readToken hmem hread)

lemma run_of_step_eq_none (hs : s.step = none) (fuel : Nat) : run (fuel + 1) s = s.settled := by
  rw [run, hs, Option.elim_none]

lemma run_of_step_eq_some (hs : s.step = some s') (fuel : Nat) :
    run (fuel + 1) s =
      if s'.tokens.head? == some .streamEnd then s'.tokens else run fuel s' := by
  rw [run, hs, Option.elim_some]

/-- The first token is not the end of the text if one has been read before the end. -/
lemma HasBegun.getLast?_run_ne (h : s.HasBegun) (fuel : Nat) :
    (run fuel s).getLast? ≠ some .streamEnd := by
  -- The latest token comes first, so the last one in the list was read before all others.
  have hsettled : ∀ {s : Lexer}, s.HasBegun → s.settled.getLast? ≠ some .streamEnd :=
    fun h hlast => h.streamEnd_notMem (List.mem_of_mem_drop (List.mem_of_getLast? hlast))
  induction fuel generalizing s with
  | zero => exact hsettled h
  | succ fuel ih =>
    cases hs : s.step with
    | none =>
      rw [run_of_step_eq_none hs]
      exact hsettled h
    | some s' =>
      rw [run_of_step_eq_some hs]
      rcases h.step hs with hbegun | ⟨ts, hts, hne, hmem⟩
      · split_ifs with hhead
        · have hin : .streamEnd ∈ s'.tokens := List.mem_of_head? (beq_iff_eq.1 hhead)
          exact absurd hin hbegun.streamEnd_notMem
        · exact ih hbegun
      · rw [hts, if_pos (by rfl), List.getLast?_cons_of_ne_nil hne]
        exact fun hlast => hmem (List.mem_of_getLast? hlast)

end Lexer

/-- The position behind the space at the start of a text. -/
lemma exists_skipSpace_start_eq (text : List Char) :
    ∃ c, Lexer.skipSpace (text.length + 1) { cursor := ⟨text, 0, 0, 0⟩ } = { cursor := c } ∧
      (c.rest = [] ↔ IsContentless text) :=
  Lexer.exists_skipSpace_eq (s := { cursor := ⟨text, 0, 0, 0⟩ }) ⟨rfl, rfl, rfl⟩
    (Nat.lt_succ_self _)

/-- A text without content has no token but its end. -/
lemma tokens_eq_of_isContentless (hall : text.all isAllowed = true) (h : IsContentless text) :
    tokens text = [.streamEnd] := by
  obtain ⟨c, hc, hiff⟩ := exists_skipSpace_start_eq text
  obtain ⟨s', hs, htokens⟩ := Lexer.step_of_rest_eq_nil rfl rfl rfl hc (hiff.2 h)
  rw [tokens, if_pos hall, Lexer.run_of_step_eq_some hs, htokens, if_pos (by rfl)]
  rfl

/-- The first token of a text with content is not its end. -/
lemma head?_tokens_ne (h : ¬ IsContentless text) : (tokens text).head? ≠ some .streamEnd := by
  unfold tokens
  split_ifs
  · rw [List.head?_reverse]
    cases hs : Lexer.step { cursor := ⟨text, 0, 0, 0⟩ } with
    | none => simp [Lexer.run_of_step_eq_none hs, Lexer.settled]
    | some s' =>
      obtain ⟨c, hc, hiff⟩ := exists_skipSpace_start_eq text
      have hbegun : s'.HasBegun := by
        refine Lexer.hasBegun_of_step rfl hs ?_
        rw [hc]
        exact mt hiff.1 h
      rw [Lexer.run_of_step_eq_some hs]
      split_ifs with hhead
      · exact absurd (List.mem_of_head? (beq_iff_eq.1 hhead)) hbegun.streamEnd_notMem
      · exact hbegun.getLast?_run_ne _
  · simp

/-! ### Documents -/

namespace Document

lemma run_peek (s : NodeState) : NodeReader.peek.run s = s.tokens.head?.map (·, s) := rfl

/-- There is no document exactly in front of the end of the text. -/
lemma first_eq_missing_iff {s : NodeState} {fuel : Nat} :
    ((first fuel).run s).map Prod.fst = some .missing ↔ s.tokens.head? = some .streamEnd := by
  constructor
  · intro h
    obtain ⟨⟨_, s'⟩, h, rfl⟩ := Option.map_eq_some_iff.1 h
    rw [first, StateT.run_bind] at h
    obtain ⟨⟨t, s₁⟩, hpeek, h⟩ := Option.bind_eq_some_iff.1 h
    rw [run_peek] at hpeek
    obtain ⟨_, ht, heq⟩ := Option.map_eq_some_iff.1 hpeek
    cases heq
    dsimp only at h
    split_ifs at h with hend
    · rw [ht, beq_iff_eq.1 hend]
    · rw [StateT.run_bind] at h
      obtain ⟨⟨root, s₂⟩, -, h⟩ := Option.bind_eq_some_iff.1 h
      rw [StateT.run_bind] at h
      obtain ⟨⟨followed, s₃⟩, -, h⟩ := Option.bind_eq_some_iff.1 h
      cases h
  · intro h
    simp [first, run_peek, h]

/-- The texts that hold no document are those without content. -/
theorem ofText?_eq_missing_iff :
    ofText? text = some .missing ↔ text.all isAllowed = true ∧ IsContentless text := by
  refine first_eq_missing_iff.trans ?_
  constructor
  · intro h
    refine ⟨?_, by_contra fun hcontent => head?_tokens_ne hcontent h⟩
    by_contra hall
    simp [tokens, hall] at h
  · rintro ⟨hall, h⟩
    rw [tokens_eq_of_isContentless hall h]
    rfl

end Document

end Adventure.Yaml
