import Adventure.Proofs.Json.Literal
import Adventure.Proofs.Json.Range

/-!
# Written JSON is read back

A value that is written in a layout of white space is read back, whatever may follow it. The reader
needs no more steps than twice the number of characters.

* `Reading.readValue_write` : a value is taken off the front of a text.
* `Reading.ofText_write` : the text of a value is JSON and holds that value.
-/

namespace Adventure.Json

open Number

/-! ### What is read -/

mutual

/-- The reading of a value. -/
def Value.toReading : Value → Reading
  | .null      => .null
  | .boolean b => .boolean b
  | .number n  => .number (.integer n)
  | .string s  => .string (some s)
  | .array vs  => .array (elementReadings vs) true
  | .object es => .object (entryReadings es) true

def elementReadings : List Value → List Reading
  | []      => []
  | v :: vs => v.toReading :: elementReadings vs

def entryReadings : List (String × Value) → List (Option String × Reading)
  | []             => []
  | (key, v) :: es => (some key, v.toReading) :: entryReadings es

end

lemma elementReadings_eq_map (vs : List Value) : elementReadings vs = vs.map Value.toReading := by
  induction vs with
  | nil => rfl
  | cons v vs ih => rw [elementReadings, ih, List.map_cons]

lemma entryReadings_eq_map (es : List (String × Value)) :
    entryReadings es = es.map fun e => (some e.1, e.2.toReading) := by
  induction es with
  | nil => rfl
  | cons e es ih => rw [entryReadings, ih, List.map_cons]

lemma Value.fitsWords_boolean (b : Bool) : (boolean b).toReading.FitsWords :=
  Reading.fitsWords_boolean b

lemma Value.fitsWords_string (s : String) : (string s).toReading.FitsWords :=
  Reading.fitsWords_string s

lemma Value.fitsWords_array_iff {vs : List Value} :
    (array vs).toReading.FitsWords ↔ ∀ v ∈ vs, v.toReading.FitsWords := by
  rw [toReading, Reading.fitsWords_array, elementReadings_eq_map, List.forall_mem_map]

lemma Value.fitsWords_object_iff {es : List (String × Value)} :
    (object es).toReading.FitsWords ↔ ∀ e ∈ es, e.2.toReading.FitsWords := by
  rw [toReading, Reading.fitsWords_object, entryReadings_eq_map, List.forall_mem_map]

lemma Value.toReading_ne_broken (v : Value) : v.toReading ≠ .broken := by
  cases v <;> simp [toReading]

/-! ### White space -/

/-- Only white space sets elements apart, and only white space follows a colon. -/
structure Layout.IsBlank (layout : Layout) : Prop where
  lineBreak : ∀ depth, ∀ c ∈ layout.lineBreak depth, Reading.isSpace c = true
  colon : ∃ ws, layout.colon = ':' :: ws ∧ ∀ c ∈ ws, Reading.isSpace c = true

lemma Layout.isBlank_compact : compact.IsBlank :=
  ⟨by simp [compact], [], rfl, by simp⟩

lemma Layout.isBlank_indented : indented.IsBlank := by
  constructor
  · intro depth c hc
    simp only [indented, List.mem_cons, List.mem_replicate] at hc
    rcases hc with rfl | ⟨-, rfl⟩ <;> rfl
  · exact ⟨[' '], rfl, by simp [Reading.isSpace]⟩

lemma mayFollow_nil : MayFollow [] := by
  simp [MayFollow]

lemma mayFollow_cons {c : Char} (h : c ∈ [',', ']', '\x7d']) (cs : List Char) :
    MayFollow (c :: cs) := by
  intro d hd
  obtain rfl := Option.some.inj hd
  exact .inr h

/-- White space may stand in front of what may follow. -/
lemma mayFollow_append {ws cs : List Char} (hws : ∀ c ∈ ws, Reading.isSpace c = true)
    (h : MayFollow cs) : MayFollow (ws ++ cs) := by
  cases ws with
  | nil => exact h
  | cons w ws =>
    intro d hd
    obtain rfl := Option.some.inj hd
    exact .inl (hws _ (List.mem_cons_self ..))

namespace Reading

variable {layout : Layout} {fuel : Nat} {ws cs rest : List Char} {v : Reading} {key : String}

lemma skipSpace_append (hws : ∀ c ∈ ws, isSpace c = true) (cs : List Char) :
    skipSpace (ws ++ cs) = skipSpace cs :=
  List.dropWhile_append_of_pos hws

lemma skipSpace_cons {c : Char} (hc : isSpace c = false) (cs : List Char) :
    skipSpace (c :: cs) = c :: cs := by
  simp [skipSpace, hc]

/-! ### Steps of the reader -/

lemma readValue_append (hws : ∀ c ∈ ws, isSpace c = true) :
    readValue (fuel + 1) (ws ++ cs) = readValue (fuel + 1) cs := by
  rw [readValue, readValue, skipSpace_append hws]

lemma readValue_array {c : Char} (hc : c ≠ ']') {vs : List Reading} {closed : Bool}
    (hcs : skipSpace cs = c :: ws) (h : readElements fuel (c :: ws) = (vs, closed, rest)) :
    readValue (fuel + 1) ('[' :: cs) = (.array vs closed, rest) := by
  simp [readValue, skipSpace_cons, isSpace, hcs, hc, h]

lemma readValue_object {c : Char} (hc : c ≠ '\x7d') {es : List (Option String × Reading)}
    {closed : Bool} (hcs : skipSpace cs = c :: ws)
    (h : readEntries fuel (c :: ws) = (es, closed, rest)) :
    readValue (fuel + 1) ('\x7b' :: cs) = (.object es closed, rest) := by
  simp [readValue, skipSpace_cons, isSpace, hcs, hc, h]

lemma readValue_scalar {c : Char} (hspace : isSpace c = false) (harray : c ≠ '[')
    (hobject : c ≠ '\x7b') : readValue (fuel + 1) (c :: cs) = scalar (c :: cs) := by
  rw [readValue, skipSpace_cons hspace]
  split
  · next h => exact absurd (List.cons.inj h).1 harray
  · next h => exact absurd (List.cons.inj h).1 hobject
  · rfl

/-- A value in front of a comma is an element, and others follow. -/
lemma readElements_comma (hv : v ≠ .broken) (h : readValue fuel cs = (v, ',' :: rest)) :
    readElements (fuel + 1) cs = consElement v (readElements fuel rest) := by
  rw [readElements, h]
  cases v <;> simp [skipSpace_cons, isSpace] at hv ⊢

/-- A value in front of the closing bracket is the last element. -/
lemma readElements_bracket (hv : v ≠ .broken) (hws : ∀ c ∈ ws, isSpace c = true)
    (h : readValue fuel cs = (v, ws ++ ']' :: rest)) :
    readElements (fuel + 1) cs = ([v], true, rest) := by
  rw [readElements, h]
  cases v <;> simp [skipSpace_append hws, skipSpace_cons, isSpace] at hv ⊢

lemma skipSpace_quote (hws : ∀ c ∈ ws, isSpace c = true) (key : String) (cs : List Char) :
    skipSpace (ws ++ quote key ++ cs) = '"' :: (key.toList.flatMap escapeChar ++ '"' :: cs) := by
  rw [List.append_assoc, skipSpace_append hws, quote]
  simp [skipSpace_cons, isSpace]

/-- A value in front of a comma belongs to the entry of its key, and others follow. -/
lemma readEntries_comma (hws : ∀ c ∈ ws, isSpace c = true) (hv : v ≠ .broken)
    (h : readValue fuel cs = (v, ',' :: rest)) :
    readEntries (fuel + 1) (ws ++ quote key ++ ':' :: cs) =
      consEntry (some key) v (readEntries fuel rest) := by
  rw [readEntries, skipSpace_quote hws]
  simp only [string?_quote, skipSpace_cons (c := ':') rfl, h]
  cases v <;> simp [skipSpace_cons, isSpace] at hv ⊢

/-- A value in front of the closing brace belongs to the last entry. -/
lemma readEntries_brace {ws' : List Char} (hws : ∀ c ∈ ws, isSpace c = true)
    (hws' : ∀ c ∈ ws', isSpace c = true) (hv : v ≠ .broken)
    (h : readValue fuel cs = (v, ws' ++ '\x7d' :: rest)) :
    readEntries (fuel + 1) (ws ++ quote key ++ ':' :: cs) = ([(some key, v)], true, rest) := by
  rw [readEntries, skipSpace_quote hws]
  simp only [string?_quote, skipSpace_cons (c := ':') rfl, h]
  cases v <;> simp [skipSpace_append hws', skipSpace_cons, isSpace] at hv ⊢

/-! ### Scalars -/

lemma word_append (w : String) (v : Reading) : word w v (w.toList ++ rest) = (v, rest) := by
  have hdrop : dropWord w (w.toList ++ rest) = some rest := by
    simp [dropWord, ← String.length_toList]
  rw [word, hdrop]

lemma scalar_quote (s : String) : scalar (quote s ++ rest) = (.string (some s), rest) := by
  simp [quote, scalar, string?_quote]

/-- The first character of a number. -/
lemma exists_toString_eq_cons (n : Nat) :
    ∃ c cs, (toString n).toList = c :: cs ∧ c.isDigit = true := by
  obtain ⟨hne, hds⟩ := isDigits_iff.1 (isDigits_toDigits n)
  obtain ⟨c, cs, hcs⟩ := List.exists_cons_of_ne_nil hne
  rw [hcs] at hds
  exact ⟨c, cs, by simp [Nat.toString_eq_repr, hcs], hds c (List.mem_cons_self ..)⟩

lemma ne_of_isDigit {c d : Char} (hc : c.isDigit = true) (hd : d.isDigit = false) : c ≠ d := by
  rintro rfl
  rw [hc] at hd
  cases hd

/-- A number is read as it was written, if it fits into a word. -/
lemma scalar_toString {n : Nat} (hn : (n : Int) ≤ maxUInt64) (h : MayFollow rest) :
    scalar ((toString n).toList ++ rest) = (.number (.integer n), rest) := by
  have htake := Numeral.take_toString hn h
  obtain ⟨c, cs, hcs, hc⟩ := exists_toString_eq_cons n
  rw [hcs, List.cons_append] at htake ⊢
  simp [scalar, ne_of_isDigit hc, htake]

/-! ### Values -/

/-- The first character of a written value is no white space and closes no array. -/
lemma exists_write_eq_cons (layout : Layout) (depth : Nat) (v : Value) :
    ∃ c cs, v.write layout depth = c :: cs ∧ isSpace c = false ∧ c ≠ ']' := by
  match v with
  | .null => exact ⟨_, _, rfl, rfl, by decide⟩
  | .boolean true | .boolean false => exact ⟨_, _, rfl, rfl, by decide⟩
  | .string s => exact ⟨_, _, rfl, rfl, by decide⟩
  | .array [] | .object [] => exact ⟨_, _, rfl, rfl, by decide⟩
  | .array (v :: vs) => exact ⟨'[', _, rfl, rfl, by decide⟩
  | .object ((key, v) :: es) => exact ⟨'\x7b', _, rfl, rfl, by decide⟩
  | .number n =>
    obtain ⟨c, cs, hcs, hc⟩ := exists_toString_eq_cons n
    refine ⟨c, cs, hcs, ?_, ne_of_isDigit hc rfl⟩
    simp [isSpace, ne_of_isDigit hc]

lemma mayFollow_writeElements (layout : Layout) (depth : Nat) (vs : List Value)
    (hws : ∀ c ∈ ws, isSpace c = true) (rest : List Char) :
    MayFollow (writeElements layout depth vs ++ (ws ++ ']' :: rest)) := by
  cases vs with
  | nil =>
    rw [writeElements, List.nil_append]
    exact mayFollow_append hws (mayFollow_cons (by decide) rest)
  | cons v vs => exact mayFollow_cons (by decide) _

lemma mayFollow_writeEntries (layout : Layout) (depth : Nat) (es : List (String × Value))
    (hws : ∀ c ∈ ws, isSpace c = true) (rest : List Char) :
    MayFollow (writeEntries layout depth es ++ (ws ++ '\x7d' :: rest)) := by
  cases es with
  | nil =>
    rw [writeEntries, List.nil_append]
    exact mayFollow_append hws (mayFollow_cons (by decide) rest)
  | cons e es => exact mayFollow_cons (by decide) _

-- The recursion is that of `Value.write`. An element is paid for by the comma or bracket in front
-- of it, so that twice the number of characters is enough.
mutual

/-- A written value is taken off the front of a text. -/
theorem readValue_write (hl : layout.IsBlank) (v : Value) (depth fuel : Nat) {ws rest : List Char}
    (hws : ∀ c ∈ ws, isSpace c = true) (hv : v.toReading.FitsWords) (hrest : MayFollow rest)
    (hfuel : 2 * (v.write layout depth).length ≤ fuel) :
    readValue fuel (ws ++ (v.write layout depth ++ rest)) = (v.toReading, rest) := by
  obtain ⟨c, cs, hcs, hspace, -⟩ := exists_write_eq_cons layout depth v
  -- Each character that was written pays for two steps of the reader.
  obtain ⟨fuel, rfl⟩ : ∃ k, fuel = k + 1 := by
    rw [hcs, List.length_cons] at hfuel
    exact ⟨fuel - 1, by omega⟩
  rw [readValue_append hws]
  match v with
  | .null =>
    rw [Value.write, Value.toReading, ← word_append "null"]
    exact readValue_scalar rfl (by decide) (by decide)
  | .boolean true =>
    rw [Value.write, Value.toReading, ← word_append "true"]
    exact readValue_scalar rfl (by decide) (by decide)
  | .boolean false =>
    rw [Value.write, Value.toReading, ← word_append "false"]
    exact readValue_scalar rfl (by decide) (by decide)
  | .string s =>
    rw [Value.write, Value.toReading, ← scalar_quote]
    exact readValue_scalar rfl (by decide) (by decide)
  | .number n =>  -- what follows must not go on with the digits
    have hn : (n : Int) ≤ maxUInt64 := fitsWords_number.1 hv n rfl
    obtain ⟨c, cs, hcs, hc⟩ := exists_toString_eq_cons n
    rw [Value.write, Value.toReading, ← scalar_toString hn hrest, hcs]
    exact readValue_scalar (by simp [isSpace, ne_of_isDigit hc]) (ne_of_isDigit hc rfl)
      (ne_of_isDigit hc rfl)
  | .array [] => simp [Value.write, Value.toReading, elementReadings, readValue, skipSpace, isSpace]
  | .object [] => simp [Value.write, Value.toReading, entryReadings, readValue, skipSpace, isSpace]
  | .array (u :: us) =>
    obtain ⟨hu, hus⟩ := List.forall_mem_cons.1 (fitsWords_array.1 hv)
    obtain ⟨c, cs, hcs, hspace, hc⟩ := exists_write_eq_cons layout (depth + 1) u
    simp only [Value.write, List.length_append, List.length_cons] at hfuel
    obtain ⟨fuel, rfl⟩ : ∃ k, fuel = k + 1 := ⟨fuel - 1, by omega⟩
    have hblank := hl.lineBreak depth
    have hread := readValue_write hl u (depth + 1) fuel (List.forall_mem_nil _) hu
      (mayFollow_writeElements layout (depth + 1) us hblank rest) (by omega)
    have hrest := readElements_write hl us (depth + 1) fuel hblank hus u.toReading_ne_broken hread
      (by omega)
    simp only [Value.write, List.cons_append, List.append_assoc, List.nil_append] at hrest ⊢
    rw [hcs] at hrest ⊢
    refine readValue_array hc ?_ hrest
    rw [skipSpace_append (hl.lineBreak (depth + 1))]
    exact skipSpace_cons hspace _
  | .object ((key, u) :: us) =>
    obtain ⟨hu, hus⟩ := List.forall_mem_cons.1 (fitsWords_object.1 hv)
    obtain ⟨blank, hcolon, hblank⟩ := hl.colon
    simp only [Value.write, List.length_append, List.length_cons] at hfuel
    obtain ⟨fuel, rfl⟩ : ∃ k, fuel = k + 1 := ⟨fuel - 1, by omega⟩
    have hread := readValue_write hl u (depth + 1) fuel hblank hu
      (mayFollow_writeEntries layout (depth + 1) us (hl.lineBreak depth) rest) (by omega)
    have hrest := readEntries_write hl us (depth + 1) fuel key (List.forall_mem_nil _)
      (hl.lineBreak depth) hus u.toReading_ne_broken hread (by omega)
    simp only [Value.write, hcolon, List.cons_append, List.append_assoc, List.nil_append]
      at hrest ⊢
    refine readValue_object (by decide) ?_ hrest
    rw [skipSpace_append (hl.lineBreak (depth + 1))]
    exact skipSpace_cons rfl _

/-- A written element of an array is read, and with it those after it. -/
theorem readElements_write (hl : layout.IsBlank) (vs : List Value) (depth fuel : Nat)
    {ws cs rest : List Char} {v : Reading} (hws : ∀ c ∈ ws, isSpace c = true)
    (hvs : ∀ v ∈ elementReadings vs, v.FitsWords) (hv : v ≠ .broken)
    (h : readValue fuel cs = (v, writeElements layout depth vs ++ (ws ++ ']' :: rest)))
    (hfuel : 2 * (writeElements layout depth vs).length ≤ fuel) :
    readElements (fuel + 1) cs = (v :: elementReadings vs, true, rest) := by
  match vs with
  | [] => exact readElements_bracket hv hws h
  | u :: us =>
    obtain ⟨hu, hus⟩ := List.forall_mem_cons.1 hvs
    rw [writeElements] at h hfuel
    simp only [List.length_append, List.length_cons] at hfuel
    obtain ⟨fuel, rfl⟩ : ∃ k, fuel = k + 1 := ⟨fuel - 1, by omega⟩
    have hread := readValue_write hl u depth fuel (hl.lineBreak depth) hu
      (mayFollow_writeElements layout depth us hws rest) (by omega)
    simp only [List.cons_append, List.append_assoc] at h
    rw [readElements_comma hv h,
      readElements_write hl us depth fuel hws hus u.toReading_ne_broken hread (by omega)]
    rfl

/-- A written entry of an object is read, and with it those after it. -/
theorem readEntries_write (hl : layout.IsBlank) (es : List (String × Value)) (depth fuel : Nat)
    (key : String) {ws ws' cs rest : List Char} {v : Reading} (hws : ∀ c ∈ ws, isSpace c = true)
    (hws' : ∀ c ∈ ws', isSpace c = true) (hes : ∀ e ∈ entryReadings es, e.2.FitsWords)
    (hv : v ≠ .broken)
    (h : readValue fuel cs = (v, writeEntries layout depth es ++ (ws' ++ '\x7d' :: rest)))
    (hfuel : 2 * (writeEntries layout depth es).length ≤ fuel) :
    readEntries (fuel + 1) (ws ++ quote key ++ ':' :: cs) =
      ((some key, v) :: entryReadings es, true, rest) := by
  match es with
  | [] => exact readEntries_brace hws hws' hv h
  | (key', u) :: us =>
    obtain ⟨hu, hus⟩ := List.forall_mem_cons.1 hes
    obtain ⟨blank, hcolon, hblank⟩ := hl.colon
    rw [writeEntries] at h hfuel
    simp only [List.length_append, List.length_cons] at hfuel
    obtain ⟨fuel, rfl⟩ : ∃ k, fuel = k + 1 := ⟨fuel - 1, by omega⟩
    have hread := readValue_write hl u depth fuel hblank hu
      (mayFollow_writeEntries layout depth us hws' rest) (by omega)
    have hrest := readEntries_write hl us depth fuel key' (hl.lineBreak depth) hws' hus
      u.toReading_ne_broken hread (by omega)
    simp only [hcolon, List.cons_append, List.append_assoc] at h hrest
    rw [readEntries_comma hws hv h, hrest]
    rfl

end

/-- The text of a value is JSON to its end and holds the value. -/
theorem ofText_write (hl : layout.IsBlank) {v : Value} (hv : v.toReading.FitsWords) :
    ofText (v.write layout 0) = (v.toReading, true) := by
  have hread := readValue_write hl v 0 (2 * (v.write layout 0).length + 2)
    (List.forall_mem_nil _) hv mayFollow_nil (by omega)
  rw [List.nil_append, List.append_nil] at hread
  rw [ofText, hread]
  rfl

end Reading

end Adventure.Json
