import Adventure.Proofs.Text.Lines
import Adventure.Proofs.Yaml.Blank
import Adventure.RoomFile.Metadata

/-!
# Blank metadata

Metadata are not decoded if each of their lines is blank or a comment. The lines are those between
line feeds, and blank is what Unicode calls white space. YAML has line breaks besides, and no other
white space in front of a comment than the blank.

* `isContentless_of_isBlankMetadata` : where the two agree about lines and white space, blank
  metadata have no content.
* `isBlankMetadata_decoded` : which blank metadata the decoder takes for nothing, too.
* `isBlankMetadata_drops_exit` : blank metadata can hold an exit, and blank metadata can be
  malformed.
-/

namespace Adventure.RoomFile

open Text Yaml

variable {c : Char} {cs body line text : List Char}

/-- A line that ends where a line of YAML does, and in which nothing but blanks stands in front of
the rest. -/
def IsYamlLine (line : List Char) : Prop :=
  ∃ body ending, line = body ++ ending ∧ ending ∈ [[], ['\n'], ['\r', '\n']] ∧
    (∀ c ∈ body, isBreak c = false) ∧ ∀ c ∈ body.takeWhile isBlankChar, c = ' '

lemma trimEnd_cons (hc : isBlankChar c = false) (cs : List Char) :
    trimEnd (c :: cs) = c :: trimEnd cs := by
  rw [trimEnd]
  split
  · next h => simp [h, hc]
  · rfl

/-- Behind the white space of a blank line there is nothing or a comment. -/
lemma head?_dropWhile_of_isBlankOrComment (h : isBlankOrComment (body ++ cs) = true) :
    body.dropWhile isBlankChar = [] ∨ (body.dropWhile isBlankChar).head? = some '#' := by
  cases hbody : body.dropWhile isBlankChar with
  | nil => exact .inl rfl
  | cons c tail =>
    right
    have hc : isBlankChar c = false := by
      have hhead := List.head?_dropWhile_not isBlankChar body
      simpa [hbody] using hhead
    have htrim : trim (body ++ cs) = c :: trimEnd (tail ++ cs) := by
      have hsplit := List.takeWhile_append_dropWhile (p := isBlankChar) (l := body)
      rw [hbody] at hsplit
      rw [← hsplit, List.append_assoc, trim, trimStart_append List.all_takeWhile, trimStart,
        List.cons_append, List.dropWhile_cons_of_neg (by simp [hc]), trimEnd_cons hc]
    simpa [isBlankOrComment, htrim] using h

/-- A line of YAML that is blank ends a blank line of YAML. -/
lemma IsYamlLine.exists_isBlankLine (h : IsYamlLine line)
    (hblank : isBlankOrComment line = true) : ∃ body ending, line = body ++ ending ∧
      (ending = [] ∨ ending = ['\n'] ∨ ending = ['\r', '\n']) ∧ IsBlankLine body := by
  obtain ⟨body, ending, rfl, hending, hbreak, hblanks⟩ := h
  refine ⟨body, ending, rfl, by simpa using hending, ?_⟩
  have hsplit := List.takeWhile_append_dropWhile (p := isBlankChar) (l := body)
  have hcomment := head?_dropWhile_of_isBlankOrComment hblank
  rw [← hsplit] at hbreak ⊢
  exact isBlankLine_append (.inl rfl) hblanks hcomment
    fun c hc => hbreak c (List.mem_append_right _ hc)

/-- Blank metadata have no content if their lines and their white space are those of YAML. -/
lemma isContentless_of_isBlankMetadata (hblank : isBlankMetadata text = true)
    (hplain : ∀ line ∈ lines text, IsYamlLine line) : IsContentless text := by
  have hlines := isLines_lines text
  rw [isBlankMetadata, List.all_eq_true] at hblank
  generalize lines text = ls at hlines hblank hplain
  induction hlines with
  | nil => exact .last isBlankLine_nil
  | @last cs _ hcs =>
    have hmem := List.mem_singleton_self cs
    obtain ⟨body, ending, rfl, hending, hline⟩ :=
      (hplain cs hmem).exists_isBlankLine (hblank cs hmem)
    obtain rfl : ending = [] := by
      rcases hending with rfl | rfl | rfl
      · rfl
      · simp at hcs
      · simp at hcs
    rw [List.append_nil]
    exact .last hline
  | @line line text ls hl _ ih =>
    obtain ⟨hblankLine, hblank⟩ := List.forall_mem_cons.1 hblank
    obtain ⟨hplainLine, hplain⟩ := List.forall_mem_cons.1 hplain
    have hrest : IsContentless text := ih hblank hplain
    obtain ⟨body, ending, rfl, hending, hline⟩ := hplainLine.exists_isBlankLine hblankLine
    rcases hending with rfl | rfl | rfl
    · obtain ⟨cs, -, heq⟩ := hl
      rw [List.append_nil] at heq
      have hbreak := hline.isBreak_eq '\n' (by simp [heq])
      exact absurd hbreak (by decide)
    · simpa using hrest.line hline rfl
    · -- To YAML the carriage return ends the line, and the line feed ends another one with nothing
      -- in it.
      simpa using (hrest.line isBlankLine_nil rfl).line hline rfl

/-- The decoder finds no document in blank metadata exactly if YAML allows their characters and
their lines are without content in YAML, too. The metadata are then the same as if they were
decoded. This is so whenever each line is one of YAML. -/
theorem isBlankMetadata_decoded (hblank : isBlankMetadata text = true) :
    (Document.ofText? text = some .missing ↔ text.all isAllowed = true ∧ IsContentless text) ∧
    (Document.ofText? text = some .missing →
      Value.ofText text = .ok .null ∧
        (Value.ofText text >>= Metadata.ofValue) = Metadata.ofText text) ∧
    (text.all isAllowed = true → (∀ line ∈ lines text, IsYamlLine line) →
      Document.ofText? text = some .missing) := by
  refine ⟨Document.ofText?_eq_missing_iff, fun hmissing => ?_, fun hall hplain => ?_⟩
  · have hnull : Value.ofText text = .ok .null := by rw [Value.ofText, hmissing]
    refine ⟨hnull, ?_⟩
    rw [hnull, Metadata.ofText, if_pos hblank]
    rfl
  · exact Document.ofText?_eq_missing_iff.2
      ⟨hall, isContentless_of_isBlankMetadata hblank hplain⟩

/-- A comment, an empty line and blanks are no content. -/
theorem isBlankMetadata_decoded_comment :
    let text := "  # north: hall\r\n\n  ".toList
    isBlankMetadata text = true ∧ Document.ofText? text = some .missing ∧
      (Value.ofText text >>= Metadata.ofValue) = Metadata.ofText text := by
  intro text
  have hblank : isBlankMetadata text = true := by decide +kernel
  have hlines : lines text = ["  # north: hall\r\n".toList, ['\n'], [' ', ' ']] := by decide +kernel
  obtain ⟨-, hagree, hmissing⟩ := isBlankMetadata_decoded hblank
  have hdocument : Document.ofText? text = some .missing := by
    refine hmissing (by decide) ?_
    rw [hlines]
    simp only [List.forall_mem_cons]
    refine ⟨⟨"  # north: hall".toList, ['\r', '\n'], rfl, by simp, ?_⟩,
      ⟨[], ['\n'], rfl, by simp, ?_⟩, ⟨[' ', ' '], [], rfl, by simp, ?_⟩, List.forall_mem_nil _⟩
    all_goals simp [isBreak, isBlankChar]
  exact ⟨hblank, hdocument, (hagree hdocument).2⟩

/-- A carriage return ends a comment of YAML, but no line of metadata: an exit behind it is lost. A
tab is white space, but YAML does not take it for indentation. -/
theorem isBlankMetadata_drops_exit :
    let text := "# exits\rnorth: hall\n".toList
    let north (r : Except Yaml.Fault Metadata) := r.toOption.bind fun m => m.exits.get .north
    isBlankMetadata text = true ∧ Metadata.ofText text = .ok {} ∧
      north (Metadata.ofText text) = none ∧
      north (Value.ofText text >>= Metadata.ofValue) = some "hall" ∧
      isBlankMetadata ['\t'] = true ∧ Metadata.ofText ['\t'] = .ok {} ∧
      (Value.ofText ['\t'] >>= Metadata.ofValue).toOption.isNone := by
  intro text north
  have hblank : isBlankMetadata text = true := by decide +kernel
  have htab : isBlankMetadata ['\t'] = true := by decide +kernel
  have htext : Metadata.ofText text = .ok {} := if_pos hblank
  refine ⟨hblank, htext, ?_, ?_, htab, if_pos htab, ?_⟩
  · rw [htext]
    rfl
  · decide +kernel
  · decide +kernel

end Adventure.RoomFile
