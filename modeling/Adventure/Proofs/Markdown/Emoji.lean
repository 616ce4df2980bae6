import Adventure.Markdown.Render
import Adventure.Proofs.Markdown.Shortcodes

/-!
# Emoji in a document

Emoji are put into the texts of a document, one text at a time, but not into code. Nothing else in
the document changes.

* `getElem?_replaceEmoji` : what becomes of a step through a document.
* `renderWith_emoji_eq` : emoji make no difference to a document without their names.
* `replaceEmoji_texts_outside_code` : all that replacing emoji does.
-/

namespace Adventure.Markdown

variable {emojis : Emojis} {e : Event} {es before after : List Event} {cs : List Char}

/-! ### Code blocks -/

/-- Behind these events the text is inside a code block: one has started and not stopped since. -/
def InCodeBlock (before : List Event) : Prop :=
  ∃ front info inside, before = front ++ .start (.codeBlock info) :: inside ∧
    ∀ info', Event.stop (.codeBlock info') ∉ inside

/-- Whether the text behind an event is inside a code block, when the text in front of it is or is
not. -/
def Event.inCodeAfter (inCode : Bool) : Event → Bool
  | .start (.codeBlock _) => true
  | .stop (.codeBlock _)  => false
  | _                     => inCode

/-- An event with emoji in its text, unless it is inside a code block. -/
def Event.withEmoji (emojis : Emojis) (inCode : Bool) : Event → Event
  | .text cs => .text (if inCode then cs else replaceShortcodes emojis cs)
  | e        => e

lemma replaceEmoji_cons (inCode : Bool) (e : Event) (es : List Event) :
    replaceEmoji emojis inCode (e :: es) =
      e.withEmoji emojis inCode :: replaceEmoji emojis (e.inCodeAfter inCode) es := by
  cases e with
  | start tag => cases tag <;> rfl
  | stop tag => cases tag <;> rfl
  | text cs => rfl
  | code cs | html cs | softBreak | hardBreak | rule | footnoteReference label => rfl

/-- Whether the second half of the events starts inside a code block depends on the first half. -/
lemma replaceEmoji_append (inCode : Bool) (es es' : List Event) :
    replaceEmoji emojis inCode (es ++ es') =
      replaceEmoji emojis inCode es ++
        replaceEmoji emojis (es.foldl Event.inCodeAfter inCode) es' := by
  induction es generalizing inCode with
  | nil => rfl
  | cons e es ih =>
    rw [List.cons_append, replaceEmoji_cons, replaceEmoji_cons, ih, List.cons_append,
      List.foldl_cons]

@[simp] lemma length_replaceEmoji (inCode : Bool) (es : List Event) :
    (replaceEmoji emojis inCode es).length = es.length := by
  induction es generalizing inCode with
  | nil => rfl
  | cons e es ih => rw [replaceEmoji_cons, List.length_cons, List.length_cons, ih]

lemma not_inCodeBlock_nil : ¬ InCodeBlock [] := by
  rintro ⟨front, info, inside, h, -⟩
  simp at h

/-- A code block goes on until an event stops it. -/
lemma inCodeBlock_append_singleton_iff :
    InCodeBlock (before ++ [e]) ↔ (∃ info, e = .start (.codeBlock info)) ∨
      (∀ info, e ≠ .stop (.codeBlock info)) ∧ InCodeBlock before := by
  constructor
  · -- Either the last event starts the block, or it belongs to what is inside.
    rintro ⟨front, info, inside, heq, hinside⟩
    rcases inside.eq_nil_or_concat' with rfl | ⟨inside, e', rfl⟩
    · exact .inl ⟨info, (List.append_inj' heq rfl).2 |> List.cons.inj |>.1⟩
    · rw [← List.cons_append, ← List.append_assoc] at heq
      obtain ⟨rfl, hlast⟩ := List.append_inj' heq rfl
      obtain ⟨rfl, -⟩ := List.cons.inj hlast
      refine .inr ⟨?_, front, info, inside, rfl, ?_⟩
      · rintro info' rfl
        exact hinside info' (by simp)
      · intro info' hmem
        exact hinside info' (List.mem_append_left _ hmem)
  · rintro (⟨info, rfl⟩ | ⟨hstop, front, info, inside, rfl, hinside⟩)
    · exact ⟨before, info, [], rfl, fun _ => List.not_mem_nil⟩
    · refine ⟨front, info, inside ++ [e], by simp, ?_⟩
      intro info' hmem
      rcases List.mem_append.1 hmem with hmem | hmem
      · exact hinside info' hmem
      · exact hstop info' (List.mem_singleton.1 hmem).symm

/-- Going through the events, one knows whether one is inside a code block. -/
lemma foldl_inCodeAfter_iff :
    before.foldl Event.inCodeAfter false = true ↔ InCodeBlock before := by
  induction before using List.reverseRecOn with
  | nil => simp [not_inCodeBlock_nil]
  | append_singleton before e ih =>
    rw [List.foldl_append, List.foldl_cons, List.foldl_nil, inCodeBlock_append_singleton_iff, ← ih]
    cases e with
    | start tag => cases tag <;> simp [Event.inCodeAfter]
    | stop tag => cases tag <;> simp [Event.inCodeAfter]
    | text cs => simp [Event.inCodeAfter]
    | code cs | html cs | softBreak | hardBreak | rule | footnoteReference label =>
      simp [Event.inCodeAfter]

/-! ### Events -/

/-- What becomes of an event, by those in front of it. -/
lemma getElem?_replaceEmoji (before : List Event) (e : Event) (after : List Event) :
    (replaceEmoji emojis false (before ++ e :: after))[before.length]? =
      some (e.withEmoji emojis (before.foldl Event.inCodeAfter false)) := by
  rw [replaceEmoji_append, replaceEmoji_cons, List.getElem?_append_right (by simp)]
  simp

/-- A text outside code blocks has its names replaced. -/
lemma getElem?_replaceEmoji_text (h : ¬ InCodeBlock before) (cs : List Char)
    (after : List Event) :
    (replaceEmoji emojis false (before ++ .text cs :: after))[before.length]? =
      some (.text (replaceShortcodes emojis cs)) := by
  have hcode : before.foldl Event.inCodeAfter false = false := by
    rwa [← foldl_inCodeAfter_iff, Bool.not_eq_true] at h
  rw [getElem?_replaceEmoji, hcode]
  rfl

/-- Events other than texts stay, and so do texts inside code blocks. -/
lemma getElem?_replaceEmoji_other (h : (∀ cs, e ≠ .text cs) ∨ InCodeBlock before)
    (after : List Event) :
    (replaceEmoji emojis false (before ++ e :: after))[before.length]? = some e := by
  rw [getElem?_replaceEmoji]
  rcases h with htext | hcode
  · cases e with
    | text cs => exact absurd rfl (htext cs)
    | start tag | stop tag | code cs | html cs | softBreak | hardBreak | rule
    | footnoteReference label => rfl
  · rw [foldl_inCodeAfter_iff.2 hcode]
    cases e <;> rfl

/-! ### Documents without names of emoji -/

/-- No text outside code blocks has a known name between colons. -/
def IsFreeOfEmoji (emojis : Emojis) (es : List Event) : Prop :=
  ∀ before cs after, es = before ++ .text cs :: after → ¬ InCodeBlock before →
    ¬ HasShortcode emojis cs

/-- Nothing changes where no known name is left. -/
lemma replaceEmoji_of_isFreeOfEmoji (h : IsFreeOfEmoji emojis es) :
    replaceEmoji emojis false es = es := by
  have hget : ∀ before e after, es = before ++ e :: after →
      (replaceEmoji emojis false es)[before.length]? = some e := by
    rintro before e after rfl
    by_cases htext : (∀ cs, e ≠ .text cs) ∨ InCodeBlock before
    · exact getElem?_replaceEmoji_other htext after
    · rw [not_or] at htext
      obtain ⟨htext, hcode⟩ := htext
      push Not at htext
      obtain ⟨cs, rfl⟩ := htext
      rw [getElem?_replaceEmoji_text hcode,
        replaceShortcodes_of_not_hasShortcode (h before cs after rfl hcode)]
  apply List.ext_getElem?
  intro i
  by_cases hi : i < es.length
  · have heq := hget (es.take i) es[i] (es.drop (i + 1)) (by simp)
    rw [List.length_take_of_le hi.le] at heq
    rw [heq, List.getElem?_eq_getElem hi]
  · rw [List.getElem?_eq_none (by simpa using hi), List.getElem?_eq_none (by simpa using hi)]

/-- Emoji make no difference to a text without their names. -/
lemma renderWith_emoji_eq {o : Options} {text : List Char}
    (h : IsFreeOfEmoji emojis (parse o.toExtensions text)) :
    renderWith emojis { o with emoji := true } text =
      renderWith emojis { o with emoji := false } text := by
  simp only [renderWith, if_true, replaceEmoji_of_isFreeOfEmoji h]
  rfl

/-- To replace emoji leaves a document with as many steps, in the same order. A text outside code
blocks is scanned for names between colons, from its front, and every other step stays. A text that
has been scanned is not changed by a second scan. A document without names of emoji outside its code
blocks is rendered with and without emoji alike. -/
theorem replaceEmoji_texts_outside_code (h : emojis.AreApart) :
    (∀ es, (replaceEmoji emojis false es).length = es.length ∧
      ∀ before e after, es = before ++ e :: after →
        (∀ cs, e = .text cs → ¬ InCodeBlock before →
          (replaceEmoji emojis false es)[before.length]? =
            some (.text (replaceShortcodes emojis cs))) ∧
        ((∀ cs, e ≠ .text cs) ∨ InCodeBlock before →
          (replaceEmoji emojis false es)[before.length]? = some e)) ∧
    (∀ text out, replaceShortcodes emojis text = out ↔ IsReplaced emojis text out) ∧
    (∀ text, replaceShortcodes emojis (replaceShortcodes emojis text) =
      replaceShortcodes emojis text) ∧
    ∀ (o : Options) (text : List Char), IsFreeOfEmoji emojis (parse o.toExtensions text) →
      renderWith emojis { o with emoji := true } text =
        renderWith emojis { o with emoji := false } text := by
  refine ⟨?_, ?_, replaceShortcodes_idem h, ?_⟩
  · intro es
    refine ⟨length_replaceEmoji false es, ?_⟩
    rintro before e after rfl
    constructor
    · rintro cs rfl hcode
      exact getElem?_replaceEmoji_text hcode cs after
    · intro hother
      exact getElem?_replaceEmoji_other hother after
  · intro text out
    exact replaceShortcodes_eq_iff
  · intro o text hfree
    exact renderWith_emoji_eq hfree

/-- A name in a code block stays, with and without emoji. -/
theorem replaceEmoji_texts_outside_code_fence :
    let text := "Take\n\n    :key:\n".toList
    knownEmojis.AreApart ∧ IsFreeOfEmoji knownEmojis (parse {} text) ∧
      renderWith knownEmojis { emoji := true } text =
        renderWith knownEmojis { emoji := false } text := by
  intro text
  have hparse : parse {} text = [.start .paragraph, .text "Take".toList, .stop .paragraph,
      .start (.codeBlock none), .text ":key:\n".toList, .stop (.codeBlock none)] := by
    decide +kernel
  have hfree : IsFreeOfEmoji knownEmojis (parse {} text) := by
    rw [hparse]
    intro before cs after heq hcode
    have hcases : cs = "Take".toList ∨ before = [.start .paragraph, .text "Take".toList,
        .stop .paragraph] ++ .start (.codeBlock none) :: [] := by
      simp [List.cons_eq_append_iff] at heq ⊢
      grind
    rcases hcases with rfl | rfl
    · rintro ⟨name, -, hin⟩
      exact absurd (hin.subset (List.mem_cons_self ..)) (by decide)
    · exact absurd ⟨_, none, [], rfl, fun _ => List.not_mem_nil⟩ hcode
  obtain ⟨-, -, -, hrender⟩ := replaceEmoji_texts_outside_code areApart_knownEmojis
  exact ⟨areApart_knownEmojis, hfree, hrender {} text hfree⟩

end Adventure.Markdown
