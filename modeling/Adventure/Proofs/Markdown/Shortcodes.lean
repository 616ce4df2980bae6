import Adventure.Markdown.Emoji
import Mathlib.Data.List.Infix
import Mathlib.Tactic.Common

/-!
# Names between colons

Emoji are put in where a name stands between colons. The names are taken from left to right, and the
colon that closes one, be it known or not, opens no other one.

* `replaceShortcodes_eq_iff` : what becomes of a text, by the first name in it.
* `replaceShortcodes_idem` : in what becomes of a text, nothing is left to be replaced.
* `hasShortcode_iff_hides` : a known name is left between colons exactly where it shares its first
  colon with an unknown one that is taken.
-/

namespace Adventure.Markdown

variable {emojis : Emojis} {cs text pre front name rest out e : List Char} {c : Char}

/-! ### Names -/

/-- One or more of the characters of names. -/
def IsName (name : List Char) : Prop :=
  name ≠ [] ∧ ∀ c ∈ name, isNameChar c = true

/-- A name between colons. -/
def shortcode (name : List Char) : List Char :=
  ':' :: (name ++ [':'])

lemma shortcode_append (name rest : List Char) :
    shortcode name ++ rest = ':' :: (name ++ ':' :: rest) := by
  simp [shortcode]

lemma colon_notMem (h : ∀ c ∈ name, isNameChar c = true) : ':' ∉ name := by
  intro hmem
  exact absurd (h ':' hmem) (by decide)

/-- A name ends at the first colon. -/
lemma append_colon_inj {name' rest' : List Char} (h : ':' ∉ name) (h' : ':' ∉ name')
    (heq : name ++ ':' :: rest = name' ++ ':' :: rest') : name = name' ∧ rest = rest' := by
  induction name generalizing name' with
  | nil =>
    cases name' with
    | nil => exact ⟨rfl, (List.cons.inj heq).2⟩
    | cons d name' => exact absurd (List.mem_cons.2 (.inl (List.cons.inj heq).1)) h'
  | cons d name ih =>
    cases name' with
    | nil => exact absurd (List.mem_cons.2 (.inl (List.cons.inj heq).1.symm)) h
    | cons d' name' =>
      obtain ⟨rfl, htail⟩ := List.cons.inj heq
      rw [List.mem_cons, not_or] at h h'
      obtain ⟨rfl, rfl⟩ := ih h.2 h'.2 htail
      exact ⟨rfl, rfl⟩

lemma takeName_append (h : IsName name) (rest : List Char) :
    takeName (name ++ ':' :: rest) = some (name, rest) := by
  have hdrop : (name ++ ':' :: rest).dropWhile isNameChar = ':' :: rest := by
    rw [List.dropWhile_append_of_pos h.2, List.dropWhile_cons_of_neg (by decide)]
  have htake : (name ++ ':' :: rest).takeWhile isNameChar = name := by
    rw [List.takeWhile_append_of_pos h.2, List.takeWhile_cons_of_neg (by decide), List.append_nil]
  simp [takeName, hdrop, htake, h.1]

/-- A name is taken off the front of a text with the colon behind it. -/
lemma takeName_eq_some_iff :
    takeName cs = some (name, rest) ↔ IsName name ∧ cs = name ++ ':' :: rest := by
  constructor
  · intro h
    unfold takeName at h
    split at h
    · next r hdrop =>
      dsimp only at h
      split_ifs at h with hempty
      obtain ⟨rfl, rfl⟩ := Prod.mk.inj (Option.some.inj h)
      refine ⟨⟨?_, List.all_eq_true.1 List.all_takeWhile⟩, ?_⟩
      · rwa [List.isEmpty_iff] at hempty
      · rw [← hdrop, List.takeWhile_append_dropWhile]
    · cases h
  · rintro ⟨hname, rfl⟩
    exact takeName_append hname rest

/-- No name with a closing colon stands at the front of a text. -/
lemma takeName_eq_none_iff : takeName cs = none ↔ ∀ name rest, IsName name →
    cs ≠ name ++ ':' :: rest := by
  rw [Option.eq_none_iff_forall_ne_some]
  constructor
  · intro h name rest hname hcs
    exact h (name, rest) (takeName_eq_some_iff.2 ⟨hname, hcs⟩)
  · rintro h ⟨name, rest⟩ htake
    obtain ⟨hname, hcs⟩ := takeName_eq_some_iff.1 htake
    exact h name rest hname hcs

/-! ### Steps -/

@[simp] lemma replaceShortcodes_nil : replaceShortcodes emojis [] = [] := by
  rw [replaceShortcodes]

lemma replaceShortcodes_cons (hc : c ≠ ':') (cs : List Char) :
    replaceShortcodes emojis (c :: cs) = c :: replaceShortcodes emojis cs := by
  rw [replaceShortcodes]
  exact hc

/-- A colon that opens no name stays, and the search goes on behind it. -/
lemma replaceShortcodes_colon (h : takeName cs = none) :
    replaceShortcodes emojis (':' :: cs) = ':' :: replaceShortcodes emojis cs := by
  rw [replaceShortcodes]
  split
  · next hsome =>
    rw [h] at hsome
    cases hsome
  · rfl

/-- What stands in the place of a name between colons. -/
def replacement (emojis : Emojis) (name : List Char) : List Char :=
  (emojis name).getD (shortcode name)

/-- A name between colons is replaced, and the search goes on behind the closing colon. -/
lemma replaceShortcodes_shortcode (h : IsName name) (rest : List Char) :
    replaceShortcodes emojis (shortcode name ++ rest) =
      replacement emojis name ++ replaceShortcodes emojis rest := by
  rw [shortcode_append, replaceShortcodes]
  split
  · next hsome =>
    obtain ⟨rfl, rfl⟩ := Prod.mk.inj (Option.some.inj ((takeName_append h rest).symm.trans hsome))
    rfl
  · next hnone =>
    rw [takeName_append h rest] at hnone
    cases hnone

lemma replaceShortcodes_append (h : ':' ∉ pre) (cs : List Char) :
    replaceShortcodes emojis (pre ++ cs) = pre ++ replaceShortcodes emojis cs := by
  induction pre with
  | nil => rfl
  | cons c pre ih =>
    rw [List.mem_cons, not_or] at h
    rw [List.cons_append, replaceShortcodes_cons (Ne.symm h.1), ih h.2, List.cons_append]

/-- The cases of the scan: the end, a character that opens no name between colons, and a name
between colons. -/
lemma scan_induction {P : List Char → Prop} (hnil : P [])
    (hcons : ∀ c cs, (∀ name rest, IsName name → c :: cs ≠ shortcode name ++ rest) → P cs →
      P (c :: cs))
    (hname : ∀ name rest, IsName name → P rest → P (shortcode name ++ rest)) (text : List Char) :
    P text := by
  match text with
  | [] => exact hnil
  | c :: cs =>
    by_cases h : ∃ name rest, IsName name ∧ c :: cs = shortcode name ++ rest
    · obtain ⟨name, rest, hn, heq⟩ := h
      have hlt : rest.length < (c :: cs).length := by
        rw [heq, shortcode_append]
        simp only [List.length_cons, List.length_append]
        omega
      rw [heq]
      exact hname name rest hn (scan_induction hnil hcons hname rest)
    · push Not at h
      exact hcons c cs h (scan_induction hnil hcons hname cs)
termination_by text.length
decreasing_by
  · exact hlt
  · exact Nat.lt_succ_self _

/-- A character that opens no name between colons stays. -/
lemma replaceShortcodes_cons_of_forall
    (h : ∀ name rest, IsName name → c :: cs ≠ shortcode name ++ rest) :
    replaceShortcodes emojis (c :: cs) = c :: replaceShortcodes emojis cs := by
  by_cases hc : c = ':'
  · subst hc
    apply replaceShortcodes_colon
    rw [takeName_eq_none_iff]
    intro name rest hname hcs
    exact h name rest hname (by rw [hcs, shortcode_append])
  · exact replaceShortcodes_cons hc cs

/-! ### The first name -/

/-- The name between colons that opens first, with the text in front of it and behind it. -/
structure IsFirst (text pre name rest : List Char) : Prop where
  isName : IsName name
  text_eq : text = pre ++ (shortcode name ++ rest)
  le : ∀ pre' name' rest', IsName name' → text = pre' ++ (shortcode name' ++ rest') →
    pre.length ≤ pre'.length

/-- What becomes of a text: the first name between colons is replaced by its emoji, if it has one,
and then those that open behind the colon that closes it. -/
inductive IsReplaced (emojis : Emojis) : List Char → List Char → Prop
  | none {text : List Char}
      (h : ∀ pre name rest, IsName name → text ≠ pre ++ (shortcode name ++ rest)) :
      IsReplaced emojis text text
  | next {text pre name rest out : List Char} (h : IsFirst text pre name rest)
      (hrest : IsReplaced emojis rest out) :
      IsReplaced emojis text (pre ++ ((emojis name).getD (shortcode name) ++ out))

lemma isFirst_nil (h : IsName name) (rest : List Char) :
    IsFirst (shortcode name ++ rest) [] name rest :=
  ⟨h, rfl, fun _ _ _ _ _ => Nat.zero_le _⟩

lemma IsFirst.cons (h : IsFirst cs pre name rest)
    (hc : ∀ name rest, IsName name → c :: cs ≠ shortcode name ++ rest) :
    IsFirst (c :: cs) (c :: pre) name rest := by
  refine ⟨h.isName, by rw [h.text_eq, List.cons_append], ?_⟩
  intro pre' name' rest' hname' heq
  cases pre' with
  | nil => exact absurd heq (hc name' rest' hname')
  | cons d pre' =>
    have hle := h.le pre' name' rest' hname' (List.cons.inj heq).2
    simpa using hle

lemma IsReplaced.cons (h : IsReplaced emojis cs out)
    (hc : ∀ name rest, IsName name → c :: cs ≠ shortcode name ++ rest) :
    IsReplaced emojis (c :: cs) (c :: out) := by
  cases h with
  | none hnone =>
    refine .none fun pre name rest hname heq => ?_
    cases pre with
    | nil => exact hc name rest hname heq
    | cons d pre => exact hnone pre name rest hname (List.cons.inj heq).2
  | next hfirst hrest => exact .next (hfirst.cons hc) hrest

/-- In front of the first name nothing is replaced. -/
lemma replaceShortcodes_append_of_le (h : ∀ pre' name rest, IsName name →
    pre ++ cs = pre' ++ (shortcode name ++ rest) → pre.length ≤ pre'.length) :
    replaceShortcodes emojis (pre ++ cs) = pre ++ replaceShortcodes emojis cs := by
  induction pre with
  | nil => rfl
  | cons c pre ih =>
    have hc : ∀ name rest, IsName name → c :: (pre ++ cs) ≠ shortcode name ++ rest := by
      intro name rest hname heq
      exact absurd (h [] name rest hname heq) (by simp)
    rw [List.cons_append, replaceShortcodes_cons_of_forall hc, ih, List.cons_append]
    intro pre' name rest hname heq
    have hle := h (c :: pre') name rest hname (by rw [List.cons_append, heq, List.cons_append])
    simpa using hle

/-- Nothing in front of the first name changes. -/
lemma IsFirst.replaceShortcodes_eq (h : IsFirst text pre name rest) :
    replaceShortcodes emojis text =
      pre ++ (replacement emojis name ++ replaceShortcodes emojis rest) := by
  rw [h.text_eq, replaceShortcodes_append_of_le, replaceShortcodes_shortcode h.isName]
  intro pre' name' rest' hname' heq
  exact h.le pre' name' rest' hname' (h.text_eq.trans heq)

/-- What becomes of a text, by the first name in it. -/
theorem replaceShortcodes_eq_iff :
    replaceShortcodes emojis text = out ↔ IsReplaced emojis text out := by
  constructor
  · rintro rfl
    induction text using scan_induction with
    | hnil =>
      rw [replaceShortcodes_nil]
      exact .none fun pre name rest _ => by simp [shortcode]
    | hcons c cs hc ih =>
      rw [replaceShortcodes_cons_of_forall hc]
      exact ih.cons hc
    | hname name rest hname ih =>
      rw [replaceShortcodes_shortcode hname]
      exact .next (isFirst_nil hname rest) ih
  · intro h
    induction h with
    | @none text h =>
      have heq : replaceShortcodes emojis (text ++ []) = text ++ replaceShortcodes emojis [] := by
        apply replaceShortcodes_append_of_le
        intro pre' name rest hname heq
        rw [List.append_nil] at heq
        exact absurd heq (h pre' name rest hname)
      simpa using heq
    | next h _ ih => rw [h.replaceShortcodes_eq, ih, replacement]

/-! ### Emoji and names -/

/-- No emoji has a colon, and each has a character that is in no name. -/
structure Emojis.AreApart (emojis : Emojis) : Prop where
  colon_notMem : ∀ name e, emojis name = some e → ':' ∉ e
  exists_other : ∀ name e, emojis name = some e → ∃ c ∈ e, isNameChar c = false

/-- Characters of names up to a colon are not where an emoji starts. -/
lemma Emojis.AreApart.append_ne (h : emojis.AreApart) {e : List Char} (he : emojis name = some e)
    {cs rest tail : List Char} (hcs : ∀ c ∈ cs, isNameChar c = true) :
    e ++ tail ≠ cs ++ ':' :: rest := by
  intro heq
  obtain ⟨c, hc, hother⟩ := h.exists_other name e he
  rcases List.append_eq_append_iff.1 heq with ⟨ds, rfl, -⟩ | ⟨ds, rfl, hds⟩
  · rw [hcs c (List.mem_append_left _ hc)] at hother
    cases hother
  · cases ds with
    | nil =>
      rw [List.append_nil] at hc
      rw [hcs c hc] at hother
      cases hother
    | cons d ds =>
      obtain ⟨rfl, -⟩ := List.cons.inj hds
      exact h.colon_notMem name _ he (by simp)

lemma replacement_of_some (h : emojis name = some e) : replacement emojis name = e := by
  rw [replacement, h, Option.getD_some]

lemma replacement_of_none (h : emojis name = none) : replacement emojis name = shortcode name := by
  rw [replacement, h, Option.getD_none]

/-- A name with a colon behind it, at the front of what became of a text, stood there before, and
the colon opened no known name. -/
lemma exists_of_replaceShortcodes_eq (h : emojis.AreApart) (hname : ∀ c ∈ name, isNameChar c = true)
    (heq : replaceShortcodes emojis cs = name ++ ':' :: out) :
    ∃ rest, cs = name ++ ':' :: rest ∧ replaceShortcodes emojis (':' :: rest) = ':' :: out := by
  induction name generalizing cs with
  | nil =>
    induction cs using scan_induction with
    | hnil => simp at heq
    | hcons c cs hc _ =>
      have hcons := heq
      rw [replaceShortcodes_cons_of_forall hc] at hcons
      obtain ⟨rfl, -⟩ := List.cons.inj hcons
      exact ⟨cs, rfl, heq⟩
    | hname name rest _ _ =>
      refine ⟨name ++ ':' :: rest, shortcode_append name rest, ?_⟩
      rw [← shortcode_append, heq, List.nil_append]
  | cons d name ih =>
    obtain ⟨hd, hds⟩ := List.forall_mem_cons.1 hname
    induction cs using scan_induction with
    | hnil => simp at heq
    | hcons c cs hc _ =>
      rw [replaceShortcodes_cons_of_forall hc] at heq
      obtain ⟨rfl, htail⟩ := List.cons.inj heq
      obtain ⟨rest, rfl, hrest⟩ := ih hds htail
      exact ⟨rest, rfl, hrest⟩
    | hname first rest hfirst _ =>
      rw [replaceShortcodes_shortcode hfirst] at heq
      cases he : emojis first with
      | some e =>  -- an emoji has a character that is in no name
        rw [replacement_of_some he] at heq
        exact absurd heq (h.append_ne he hname)
      | none =>  -- an unknown name stays with its colons
        rw [replacement_of_none he, shortcode_append] at heq
        obtain ⟨rfl, -⟩ := List.cons.inj heq
        exact absurd hd (by decide)

/-- A text that starts with no name and a colon behind it does not become one that does. -/
lemma takeName_replaceShortcodes (h : emojis.AreApart) (hcs : takeName cs = none) :
    takeName (replaceShortcodes emojis cs) = none := by
  rw [takeName_eq_none_iff] at hcs ⊢
  intro name out hname heq
  obtain ⟨rest, rfl, -⟩ := exists_of_replaceShortcodes_eq h hname.2 heq
  exact hcs name rest hname rfl

/-- In what becomes of a text, nothing is left to be replaced. -/
theorem replaceShortcodes_idem (h : emojis.AreApart) (text : List Char) :
    replaceShortcodes emojis (replaceShortcodes emojis text) = replaceShortcodes emojis text := by
  induction text using scan_induction with
  | hnil => simp
  | hcons c cs hc ih =>
    rw [replaceShortcodes_cons_of_forall hc]
    by_cases hcolon : c = ':'
    · -- A colon that opens no name does not open one after the replacement either.
      subst hcolon
      have hnone : takeName cs = none := by
        rw [takeName_eq_none_iff]
        intro name rest hname heq
        exact hc name rest hname (by rw [heq, shortcode_append])
      rw [replaceShortcodes_colon (takeName_replaceShortcodes h hnone), ih]
    · rw [replaceShortcodes_cons hcolon, ih]
  | hname name rest hname ih =>
    rw [replaceShortcodes_shortcode hname]
    cases he : emojis name with
    | some e =>  -- passed over, since an emoji has no colon
      rw [replacement_of_some he, replaceShortcodes_append (h.colon_notMem name e he), ih]
    | none =>  -- found again, and left again
      rw [replacement_of_none he, replaceShortcodes_shortcode hname, replacement_of_none he, ih]

/-! ### Known names -/

/-- The name is that of an emoji. -/
def IsKnown (emojis : Emojis) (name : List Char) : Prop :=
  IsName name ∧ emojis name ≠ none

/-- A known name stands between colons. -/
def HasShortcode (emojis : Emojis) (text : List Char) : Prop :=
  ∃ name, IsKnown emojis name ∧ shortcode name <:+: text

/-- A text without a known name between colons stays as it is. -/
lemma replaceShortcodes_of_not_hasShortcode (h : ¬ HasShortcode emojis text) :
    replaceShortcodes emojis text = text := by
  induction text using scan_induction with
  | hnil => simp
  | hcons c cs hc ih =>
    rw [replaceShortcodes_cons_of_forall hc, ih]
    rintro ⟨name, hknown, hin⟩
    exact h ⟨name, hknown, hin.trans (List.suffix_cons c cs).isInfix⟩
  | hname name rest hname ih =>
    rw [replaceShortcodes_shortcode hname, ih, replacement_of_none]
    · by_contra hsome
      exact h ⟨name, ⟨hname, hsome⟩, (List.prefix_append _ _).isInfix⟩
    · rintro ⟨name', hknown, hin⟩
      exact h ⟨name', hknown, hin.trans (List.suffix_append _ _).isInfix⟩

/-- The name is taken between colons, with the text in front of it and behind it: it opens first, or
first behind a name that is taken. -/
inductive Takes : List Char → List Char → List Char → List Char → Prop
  | first {text pre name rest : List Char} (h : IsFirst text pre name rest) :
      Takes text pre name rest
  | later {text pre name rest front name' rest' : List Char} (h : IsFirst text pre name rest)
      (h' : Takes rest front name' rest') :
      Takes text (pre ++ (shortcode name ++ front)) name' rest'

/-- An unknown name is taken with a colon that opens a known one, and the colon that closes the
known one does not open a known one in its turn. -/
def Hides (emojis : Emojis) (text : List Char) : Prop :=
  ∃ front unknown known back, Takes text front unknown (known ++ ':' :: back) ∧
    emojis unknown = none ∧ IsKnown emojis known ∧
    ∀ name rest, IsKnown emojis name → back ≠ name ++ ':' :: rest

lemma Takes.cons (h : Takes cs front name rest)
    (hc : ∀ name rest, IsName name → c :: cs ≠ shortcode name ++ rest) :
    Takes (c :: cs) (c :: front) name rest := by
  cases h with
  | first h => exact .first (h.cons hc)
  | later h h' => exact .later (h.cons hc) h'

lemma Takes.isName (h : Takes text front name rest) : IsName name := by
  induction h with
  | first h => exact h.isName
  | later _ _ ih => exact ih

lemma Takes.exists_replaceShortcodes_eq (emojis : Emojis) (h : Takes text front name rest) :
    ∃ out, replaceShortcodes emojis text =
      out ++ (replacement emojis name ++ replaceShortcodes emojis rest) := by
  induction h with
  | first h => exact ⟨_, h.replaceShortcodes_eq⟩
  | later h _ ih =>
    obtain ⟨out, hout⟩ := ih
    exact ⟨_, by rw [h.replaceShortcodes_eq, hout, ← List.append_assoc, ← List.append_assoc,
      List.append_assoc]⟩

lemma Hides.cons (h : Hides emojis cs)
    (hc : ∀ name rest, IsName name → c :: cs ≠ shortcode name ++ rest) :
    Hides emojis (c :: cs) := by
  obtain ⟨front, unknown, known, back, htakes, hhides⟩ := h
  exact ⟨c :: front, unknown, known, back, htakes.cons hc, hhides⟩

lemma Hides.behind (h : Hides emojis rest) (hname : IsName name) :
    Hides emojis (shortcode name ++ rest) := by
  obtain ⟨front, unknown, known, back, htakes, hhides⟩ := h
  exact ⟨_, unknown, known, back, .later (isFirst_nil hname rest) htakes, hhides⟩

/-- A colon stays unless it opens a known name. -/
lemma exists_replaceShortcodes_colon_eq_iff (h : emojis.AreApart) :
    (∃ out, replaceShortcodes emojis (':' :: cs) = ':' :: out) ↔
      ∀ name rest, IsKnown emojis name → cs ≠ name ++ ':' :: rest := by
  constructor
  · rintro ⟨out, hout⟩ name rest ⟨hname, hsome⟩ rfl
    obtain ⟨e, he⟩ := Option.ne_none_iff_exists'.1 hsome
    rw [← shortcode_append, replaceShortcodes_shortcode hname, replacement_of_some he] at hout
    exact h.append_ne he (List.forall_mem_nil _) hout
  · intro hcs
    cases htake : takeName cs with
    | none => exact ⟨_, replaceShortcodes_colon htake⟩
    | some taken =>
      obtain ⟨name, rest⟩ := taken
      obtain ⟨hname, rfl⟩ := takeName_eq_some_iff.1 htake
      have hnone : emojis name = none := by
        by_contra hsome
        exact hcs name rest ⟨hname, hsome⟩ rfl
      rw [← shortcode_append, replaceShortcodes_shortcode hname, replacement_of_none hnone]
      exact ⟨_, shortcode_append name _⟩

/-! ### What is left -/

/-- A name between colons does not start in a text without colons. -/
lemma shortcode_infix_append_iff (h : ':' ∉ pre) :
    shortcode name <:+: pre ++ cs ↔ shortcode name <:+: cs := by
  constructor
  · intro hin
    induction pre with
    | nil => exact hin
    | cons c pre ih =>
      rw [List.mem_cons, not_or] at h
      rcases List.infix_cons_iff.1 hin with hstart | hin
      · obtain ⟨rest, hrest⟩ := hstart
        exact absurd (List.cons.inj hrest).1 h.1
      · exact ih h.2 hin
  · intro hin
    exact hin.trans (List.suffix_append pre cs).isInfix

/-- Behind an unknown name that stays between its colons, a known name opens with the closing colon
or further behind. -/
lemma shortcode_infix_shortcode_append (hname : IsName name) {known : List Char}
    (hknown : IsName known) (hne : name ≠ known) (h : shortcode known <:+: shortcode name ++ out) :
    (∃ tail, out = known ++ ':' :: tail) ∨ shortcode known <:+: out := by
  have hcolon := colon_notMem hname.2
  rw [shortcode_append] at h
  rcases List.infix_cons_iff.1 h with ⟨tail, htail⟩ | h
  · rw [shortcode_append] at htail
    have heq := append_colon_inj (colon_notMem hknown.2) hcolon (List.cons.inj htail).2
    exact absurd heq.1.symm hne
  · rw [shortcode_infix_append_iff hcolon] at h
    rcases List.infix_cons_iff.1 h with ⟨tail, htail⟩ | h
    · rw [shortcode_append] at htail
      exact .inl ⟨tail, (List.cons.inj htail).2.symm⟩
    · exact .inr h

/-- A known name that is left over was hidden by an unknown one. No emoji takes part in it: emoji
have no colons and are not made of characters of names. -/
lemma hides_of_hasShortcode (h : emojis.AreApart)
    (hleft : HasShortcode emojis (replaceShortcodes emojis text)) : Hides emojis text := by
  obtain ⟨known, hknown, hin⟩ := hleft
  induction text using scan_induction with
  | hnil => simp [shortcode] at hin
  | hcons c cs hc ih =>
    rw [replaceShortcodes_cons_of_forall hc] at hin
    refine (ih ?_).cons hc
    rcases List.infix_cons_iff.1 hin with ⟨tail, htail⟩ | hin
    · -- What stays as it is opens no name, also when what follows is replaced.
      rw [shortcode_append] at htail
      obtain ⟨rfl, hcs⟩ := List.cons.inj htail
      obtain ⟨rest, rfl, -⟩ := exists_of_replaceShortcodes_eq h hknown.1.2 hcs.symm
      exact absurd (shortcode_append known rest).symm (hc known rest hknown.1)
    · exact hin
  | hname name rest hname ih =>
    rw [replaceShortcodes_shortcode hname] at hin
    cases he : emojis name with
    | some e =>
      rw [replacement_of_some he, shortcode_infix_append_iff (h.colon_notMem name e he)] at hin
      exact (ih hin).behind hname
    | none =>
      rw [replacement_of_none he] at hin
      have hne : name ≠ known := by
        rintro rfl
        exact hknown.2 he
      rcases shortcode_infix_shortcode_append hname hknown.1 hne hin with ⟨tail, htail⟩ | hin
      · obtain ⟨back, rfl, hback⟩ := exists_of_replaceShortcodes_eq h hknown.1.2 htail
        have hopens := (exists_replaceShortcodes_colon_eq_iff h).1 ⟨_, hback⟩
        exact ⟨[], name, known, back, .first (isFirst_nil hname _), he, hknown, hopens⟩
      · exact (ih hin).behind hname

/-- A known name that is hidden is left over, since the search goes on behind its opening colon. -/
lemma hasShortcode_of_hides (h : emojis.AreApart) (hhides : Hides emojis text) :
    HasShortcode emojis (replaceShortcodes emojis text) := by
  obtain ⟨front, unknown, known, back, htakes, hnone, hknown, hback⟩ := hhides
  obtain ⟨out, hout⟩ := htakes.exists_replaceShortcodes_eq emojis
  obtain ⟨tail, htail⟩ := (exists_replaceShortcodes_colon_eq_iff h).2 hback
  have hcolon := colon_notMem hknown.1.2
  rw [replacement_of_none hnone, replaceShortcodes_append hcolon, htail] at hout
  refine ⟨known, hknown, out ++ ':' :: unknown, tail, ?_⟩
  rw [hout]
  simp [shortcode]

/-- The known emoji are pictures. One of them starts with a digit, but none is written with
characters of names alone. -/
lemma areApart_knownEmojis : knownEmojis.AreApart := by
  have htable : (emojiTable.all fun entry => entry.2.toList.all (· != ':') &&
      entry.2.toList.any (!isNameChar ·)) = true := by
    decide +kernel
  simp only [List.all_eq_true, List.any_eq_true, Bool.and_eq_true] at htable
  have hmem : ∀ name e, knownEmojis name = some e → ∃ entry ∈ emojiTable, entry.2.toList = e := by
    intro name e he
    obtain ⟨s, hs, rfl⟩ := Option.map_eq_some_iff.1 he
    obtain ⟨l, r, hl, -⟩ := List.lookup_eq_some_iff.1 hs
    exact ⟨(String.ofList name, s), by rw [hl]; simp, rfl⟩
  constructor
  · intro name e he
    obtain ⟨entry, hentry, rfl⟩ := hmem name e he
    exact fun hcolon => absurd ((htable entry hentry).1 ':' hcolon) (by decide)
  · intro name e he
    obtain ⟨entry, hentry, rfl⟩ := hmem name e he
    simpa using (htable entry hentry).2

/-- An unknown name that is taken stays between its colons. A known name is left between colons
exactly where an unknown one is taken with its first colon. -/
theorem hasShortcode_iff_hides (h : emojis.AreApart) (text : List Char) :
    (∀ front name rest, Takes text front name rest → emojis name = none →
      ∃ out, replaceShortcodes emojis text =
        out ++ (shortcode name ++ replaceShortcodes emojis rest)) ∧
    (HasShortcode emojis (replaceShortcodes emojis text) ↔ Hides emojis text) := by
  refine ⟨?_, hides_of_hasShortcode h, hasShortcode_of_hides h⟩
  intro front name rest htakes hnone
  obtain ⟨out, hout⟩ := htakes.exists_replaceShortcodes_eq emojis
  exact ⟨out, by rw [hout, replacement_of_none hnone]⟩

/-- The minutes of a time are no name of an emoji, but an emoji right behind them is not put in. -/
lemma hasShortcode_time :
    HasShortcode knownEmojis (replaceShortcodes knownEmojis "10:30:smile:".toList) := by
  have hminutes : IsName "30".toList := ⟨nofun, by simp [isNameChar]⟩
  have hsmile : IsName "smile".toList := ⟨nofun, by simp [isNameChar]⟩
  have htext : "10:30:smile:".toList =
      "10".toList ++ (shortcode "30".toList ++ ("smile".toList ++ [':'])) := rfl
  have hleft : replaceShortcodes knownEmojis "10:30:smile:".toList = "10:30:smile:".toList := by
    rw [htext, replaceShortcodes_append (by simp), replaceShortcodes_shortcode hminutes,
      replacement_of_none (by decide +kernel), replaceShortcodes_append (colon_notMem hsmile.2),
      replaceShortcodes_colon rfl, replaceShortcodes_nil]
  rw [hleft]
  exact ⟨"smile".toList, ⟨hsmile, by decide +kernel⟩, "10:30".toList, [], rfl⟩

/-- The minutes of a time hide the name behind them. -/
theorem hasShortcode_iff_hides_time :
    knownEmojis.AreApart ∧ Hides knownEmojis "10:30:smile:".toList := by
  obtain ⟨-, hiff⟩ := hasShortcode_iff_hides areApart_knownEmojis "10:30:smile:".toList
  exact ⟨areApart_knownEmojis, hiff.1 hasShortcode_time⟩

/-- Not every known name between colons is replaced. -/
theorem exists_known_shortcode_left :
    ¬ ∀ text, ¬ HasShortcode knownEmojis (replaceShortcodes knownEmojis text) := by
  intro h
  exact h "10:30:smile:".toList hasShortcode_time

end Adventure.Markdown
