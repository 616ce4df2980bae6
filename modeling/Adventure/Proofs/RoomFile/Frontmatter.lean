import Adventure.Proofs.Text.Lines
import Adventure.RoomFile.Frontmatter

/-!
# Metadata between fences

A file is split at its first line and at the next line of hyphens, and in no other way.

* `split_eq_some_iff` : which parts a file has.
* `Fenced.unique` : a file has its parts in one way only.
* `split_iff_fenced` : which parts a file has, when it has none, and what becomes of parts that are
  put together.
-/

namespace Adventure.RoomFile

open Text

variable {text l l' : List Char} {ls : List (List Char)} {parts : Parts}

/-! ### Fences -/

/-- Three hyphens, and nothing but white space after them. -/
def IsFence (l : List Char) : Prop :=
  ∃ blank, isBlank blank = true ∧ l = ['-', '-', '-'] ++ blank

lemma isFence_iff : isFence l = true ↔ IsFence l := by
  rw [isFence, beq_iff_eq]
  constructor
  · intro h
    obtain ⟨blank, hblank, hl⟩ := exists_eq_trimEnd_append l
    exact ⟨blank, hblank, by rwa [h] at hl⟩
  · rintro ⟨blank, hblank, rfl⟩
    rw [trimEnd_append hblank]
    rfl

/-- A line of the metadata is no fence. -/
def IsPlainLine (l : List Char) : Prop :=
  IsLine l ∧ ¬ IsFence l

/-- The first line is a fence, and so is the first line between the metadata and the body. Only the
second fence may lack its line feed, and then there is no body. -/
structure Fenced (text opening closing : List Char) (parts : Parts) : Prop where
  text_eq : text = opening ++ (parts.metadata ++ (closing ++ parts.body))
  isLine_opening : IsLine opening
  isFence_opening : IsFence opening
  metadata : ∃ ms : List (List Char), (∀ m ∈ ms, IsPlainLine m) ∧ parts.metadata = ms.flatten
  isFence_closing : IsFence closing
  isLine_closing : IsLine closing ∨ '\n' ∉ closing ∧ parts.body = []

/-! ### Lines in front of a fence -/

lemma splitAtFence_cons_of_isFence (h : IsFence l) (ls : List (List Char)) :
    splitAtFence (l :: ls) = some ⟨[], ls.flatten⟩ := by
  rw [splitAtFence, if_pos (isFence_iff.2 h)]

lemma splitAtFence_cons_of_not_isFence (h : ¬ IsFence l) (ls : List (List Char)) :
    splitAtFence (l :: ls) =
      (splitAtFence ls).map fun p => { p with metadata := l ++ p.metadata } := by
  rw [splitAtFence, if_neg (mt isFence_iff.1 h)]

/-- There are no parts if no line is a fence. -/
lemma splitAtFence_eq_none_iff : splitAtFence ls = none ↔ ∀ l ∈ ls, ¬ IsFence l := by
  induction ls with
  | nil => simp [splitAtFence]
  | cons l ls ih =>
    by_cases h : IsFence l
    · simp [splitAtFence_cons_of_isFence h, h]
    · simp [splitAtFence_cons_of_not_isFence h, h, ih]

/-- The parts are those before and after the first fence. -/
lemma splitAtFence_append {ms : List (List Char)} (hms : ∀ m ∈ ms, ¬ IsFence m) (hl : IsFence l)
    (ls : List (List Char)) :
    splitAtFence (ms ++ l :: ls) = some ⟨ms.flatten, ls.flatten⟩ := by
  induction ms with
  | nil => exact splitAtFence_cons_of_isFence hl ls
  | cons m ms ih =>
    obtain ⟨hm, hms⟩ := List.forall_mem_cons.1 hms
    rw [List.cons_append, splitAtFence_cons_of_not_isFence hm, ih hms]
    rfl

/-- The first fence is found, with the lines in front of it and behind it. -/
lemma splitAtFence_eq_some_iff : splitAtFence ls = some parts ↔
    ∃ ms l post, ls = ms ++ l :: post ∧ (∀ m ∈ ms, ¬ IsFence m) ∧ IsFence l ∧
      parts = ⟨ms.flatten, post.flatten⟩ := by
  constructor
  · intro h
    induction ls generalizing parts with
    | nil => simp [splitAtFence] at h
    | cons l ls ih =>
      by_cases hl : IsFence l
      · rw [splitAtFence_cons_of_isFence hl] at h
        exact ⟨[], l, ls, rfl, by simp, hl, (Option.some.inj h).symm⟩
      · rw [splitAtFence_cons_of_not_isFence hl] at h
        obtain ⟨_, hrest, rfl⟩ := Option.map_eq_some_iff.1 h
        obtain ⟨ms, l', post, rfl, hms, hl', rfl⟩ := ih hrest
        exact ⟨l :: ms, l', post, rfl, List.forall_mem_cons.2 ⟨hl, hms⟩, hl', rfl⟩
  · rintro ⟨ms, l, post, rfl, hms, hl, rfl⟩
    exact splitAtFence_append hms hl post

/-! ### Files -/

/-- A file has parts if its first line is a fence and another fence follows. -/
lemma split_eq_some_iff_lines : split text = some parts ↔
    ∃ l ls, IsLines (dropByteOrderMark text) (l :: ls) ∧ IsFence l ∧
      splitAtFence ls = some parts := by
  simp only [← lines_eq_iff]
  unfold split
  split
  · next hnil => simp [hnil]
  · next l ls hcons =>
    rw [hcons]
    by_cases hl : IsFence l
    · simp [isFence_iff, hl]
    · simp [isFence_iff, hl]

/-- A file has no parts if its first line is no fence, or if none of the others is. -/
lemma split_eq_none_iff : split text = none ↔
    ∀ l ls, IsLines (dropByteOrderMark text) (l :: ls) → ¬ IsFence l ∨ ∀ m ∈ ls, ¬ IsFence m := by
  simp only [← lines_eq_iff, ← splitAtFence_eq_none_iff]
  unfold split
  split
  · next hnil => simp [hnil]
  · next l ls hcons =>
    rw [hcons]
    by_cases hl : IsFence l
    · simp [isFence_iff, hl]
    · simp [isFence_iff, hl]

/-- The lines of a file with fences. -/
lemma Fenced.isLines {opening closing : List Char} (h : Fenced text opening closing parts) :
    ∃ ms, (∀ m ∈ ms, ¬ IsFence m) ∧ parts.metadata = ms.flatten ∧
      IsLines text (opening :: (ms ++ closing :: lines parts.body)) := by
  obtain ⟨ms, hms, hmetadata⟩ := h.metadata
  refine ⟨ms, fun m hm => (hms m hm).2, hmetadata, isLines_cons_iff.2 ?_⟩
  refine ⟨_, h.text_eq, isLines_append_cons_iff.2 ?_, .inl h.isLine_opening⟩
  refine ⟨fun m hm => (hms m hm).1, _, by rw [hmetadata], isLines_cons_iff.2 ?_⟩
  refine ⟨parts.body, rfl, isLines_lines parts.body, ?_⟩
  obtain ⟨blank, -, hclosing⟩ := h.isFence_closing
  exact h.isLine_closing.imp_right fun hend => ⟨by simp [hclosing], hend⟩

/-- The parts of a file are those between its fences. -/
theorem split_eq_some_iff : split text = some parts ↔
    ∃ opening closing, Fenced (dropByteOrderMark text) opening closing parts := by
  rw [split_eq_some_iff_lines]
  constructor
  · rintro ⟨opening, ls, hlines, hopening, hls⟩
    obtain ⟨ms, closing, post, rfl, hms, hclosing, rfl⟩ := splitAtFence_eq_some_iff.1 hls
    obtain ⟨_, htext, hrest, hline⟩ := isLines_cons_iff.1 hlines
    obtain ⟨hmlines, _, rfl, htail⟩ := isLines_append_cons_iff.1 hrest
    obtain ⟨body, rfl, hbody, hend⟩ := isLines_cons_iff.1 htail
    refine ⟨opening, closing, ?_, ?_, hopening, ?_, hclosing, ?_⟩
    · rw [htext, hbody.flatten_eq]
    · rcases hline with hline | ⟨-, -, hnil⟩
      · exact hline
      · -- If the first fence had no line feed, nothing would be left for the second one.
        obtain ⟨blank, -, rfl⟩ := hclosing
        simp at hnil
    · exact ⟨ms, fun m hm => ⟨hmlines m hm, hms m hm⟩, rfl⟩
    · rw [hbody.flatten_eq]
      exact hend.imp_right fun h => h.2
  · rintro ⟨opening, closing, h⟩
    obtain ⟨ms, hms, hmetadata, hlines⟩ := h.isLines
    refine ⟨opening, _, hlines, h.isFence_opening, splitAtFence_eq_some_iff.2 ?_⟩
    refine ⟨ms, closing, _, rfl, hms, h.isFence_closing, ?_⟩
    rw [(isLines_lines parts.body).flatten_eq, ← hmetadata]

/-- A file has its fences and its parts in one way only. -/
theorem Fenced.unique {opening closing opening' closing' : List Char} {parts' : Parts}
    (h : Fenced text opening closing parts) (h' : Fenced text opening' closing' parts') :
    opening' = opening ∧ closing' = closing ∧ parts' = parts := by
  obtain ⟨ms, hms, hmetadata, hlines⟩ := h.isLines
  obtain ⟨ms', hms', hmetadata', hlines'⟩ := h'.isLines
  rw [← lines_eq_iff] at hlines hlines'
  rw [hlines] at hlines'
  obtain ⟨rfl, htail⟩ := List.cons.inj hlines'
  have hparts := congrArg splitAtFence htail
  rw [splitAtFence_append hms h.isFence_closing, splitAtFence_append hms' h'.isFence_closing,
    ← hmetadata, ← hmetadata', (isLines_lines _).flatten_eq, (isLines_lines _).flatten_eq] at hparts
  obtain rfl : parts = parts' := Option.some.inj hparts
  -- What stands between the same texts is the same.
  have htext := h.text_eq.symm.trans h'.text_eq
  rw [List.append_cancel_left_eq, List.append_cancel_left_eq, List.append_cancel_right_eq] at htext
  exact ⟨rfl, htext.symm, rfl⟩

/-- A byte order mark is dropped once, where there is one. -/
lemma dropByteOrderMark_eq (text : List Char) :
    text = '\ufeff' :: dropByteOrderMark text ∨
      text.head? ≠ some '\ufeff' ∧ dropByteOrderMark text = text := by
  unfold dropByteOrderMark
  split
  · exact .inl rfl
  · next h =>
    refine .inr ⟨?_, rfl⟩
    intro hmark
    obtain ⟨cs, hcs⟩ := List.head?_eq_some_iff.1 hmark
    exact h cs hcs

/-- Metadata and a body that are put together with fences are found again. -/
lemma split_append {ms : List (List Char)} (hms : ∀ m ∈ ms, IsPlainLine m) (body : List Char) :
    split ("---\n".toList ++ (ms.flatten ++ ("---\n".toList ++ body))) =
      some ⟨ms.flatten, body⟩ := by
  have hfence : IsFence "---\n".toList := ⟨['\n'], by decide, by decide⟩
  have hline : IsLine "---\n".toList := ⟨['-', '-', '-'], by decide, by decide⟩
  rw [split_eq_some_iff]
  exact ⟨_, _, rfl, hline, hfence, ⟨ms, hms, rfl⟩, hfence, .inl hline⟩

/-- A byte order mark aside, the parts of a file are those between its fences, and there is one way
only to find them. A file has no parts exactly if its first line is no fence or no later line is
one. Metadata without fences in it and any body are the parts of the file that they make. -/
theorem split_iff_fenced (text : List Char) :
    (text = '\ufeff' :: dropByteOrderMark text ∨
      text.head? ≠ some '\ufeff' ∧ dropByteOrderMark text = text) ∧
    (∀ parts, split text = some parts ↔
      ∃ opening closing, Fenced (dropByteOrderMark text) opening closing parts) ∧
    (∀ opening closing parts opening' closing' parts',
      Fenced (dropByteOrderMark text) opening closing parts →
      Fenced (dropByteOrderMark text) opening' closing' parts' →
      opening' = opening ∧ closing' = closing ∧ parts' = parts) ∧
    (split text = none ↔ ∀ l ls, IsLines (dropByteOrderMark text) (l :: ls) →
      ¬ IsFence l ∨ ∀ m ∈ ls, ¬ IsFence m) ∧
    ∀ (ms : List (List Char)) (body : List Char), (∀ m ∈ ms, IsPlainLine m) →
      split ("---\n".toList ++ (ms.flatten ++ ("---\n".toList ++ body))) =
        some ⟨ms.flatten, body⟩ := by
  refine ⟨dropByteOrderMark_eq text, fun parts => split_eq_some_iff, ?_, split_eq_none_iff, ?_⟩
  · intro opening closing parts opening' closing' parts' h h'
    exact h.unique h'
  · intro ms body hms
    exact split_append hms body

/-- Hyphens that are indented are no fence, and neither is a fence in the body. -/
theorem split_iff_fenced_hyphens :
    split "---\n ---\n---\nx\n---\n".toList = some ⟨" ---\n".toList, "x\n---\n".toList⟩ := by
  obtain ⟨-, -, -, -, hsplit⟩ := split_iff_fenced []
  have hplain : IsPlainLine " ---\n".toList := by
    refine ⟨⟨" ---".toList, by decide, by decide⟩, ?_⟩
    rw [← isFence_iff]
    decide
  exact hsplit [" ---\n".toList] "x\n---\n".toList (by simpa using hplain)

end Adventure.RoomFile
