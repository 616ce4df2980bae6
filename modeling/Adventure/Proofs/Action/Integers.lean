import Adventure.Proofs.Action.Arguments
import Adventure.Proofs.Number.Canonical

/-!
# Integers in actions

An integer may be written with a plus sign and with zeros at its front, and there may be any number
of digits. What counts is the integer that it denotes: the statement has its canonical decimal, and
an integer of more than 64 bits or a divisor that is zero has no statement.

* `compile_integer` : the statement of a call with an integer, or why there is none.
-/

namespace Adventure.Action

open Number

variable {k : Keyword} {l : List Char} {n : Int}

/-! ### Integers as values -/

/-- Every function takes an integer of 64 bits, except that `div` does not take zero. -/
lemma exists_isOperand_integer (render : List Char → List Char) (h : Numeral l n)
    (hmin : minInt64 ≤ n) (hmax : n ≤ maxInt64) (hzero : k = .div → n ≠ 0) :
    ∃ op : Operation, op.keyword = k ∧ op.value = .integer n ∧
      Token.IsOperand render ⟨.integer, l⟩ op := by
  have hint : Token.IsInteger ⟨.integer, l⟩ n := .mk h hmin hmax
  cases k with
  | set => exact ⟨.set (.integer n), rfl, rfl, .set (.integer hint)⟩
  | add => exact ⟨.add (.integer n), rfl, rfl, .add (.integer hint)⟩
  | sub => exact ⟨.sub n, rfl, rfl, .sub hint⟩
  | mul => exact ⟨.mul n, rfl, rfl, .mul hint⟩
  | div => exact ⟨.div n (hzero rfl), rfl, rfl, .div hint (hzero rfl)⟩

/-- An integer beyond 64 bits is refused by every function, and its lexeme is reported. -/
lemma fault?_outOfRange (k : Keyword) (h : Numeral l n) (hn : n < minInt64 ∨ maxInt64 < n) :
    (Slot.value k).fault? ⟨.integer, l⟩ = some (.integerOutOfRange l) := by
  simp [Slot.fault?, readInt64_eq_none h hn]

/-- Zero is refused as a divisor, whatever numeral stands for it. -/
lemma fault?_zero (h : Numeral l 0) :
    (Slot.value .div).fault? ⟨.integer, l⟩ = some .divisionByZero := by
  simp [Slot.fault?, readInt64_eq_some_iff.2 ⟨h, by decide, by decide⟩]

/-! ### Calls with an integer -/

/-- An integer keeps its value, whatever its sign, its zeros and its number of digits: the statement
has the canonical decimal of the integer, and the same statement comes from that decimal.
An integer that does not fit into 64 bits is out of range, and a divisor may not be zero, however it
is written. -/
theorem compile_integer (render : List Char → List Char) {gap : Nat → List Char}
    (hgap : ∀ n, ∀ c ∈ gap n, isSpace c = true) (k : Keyword) {key element x y l : List Char}
    {n : Int} (hkey : IsNameText key x) (helement : IsNameText element y) (hl : Numeral l n) :
    (minInt64 ≤ n → n ≤ maxInt64 → (k = .div → n ≠ 0) →
      ∃ d, (∀ c, IsCanonical c ∧ Numeral c n ↔ c = d) ∧
        compile render (callText gap k key l element) = .ok (Assignment.text ⟨y, x, k, d⟩) ∧
        compile render (callText gap k key d element) = .ok (Assignment.text ⟨y, x, k, d⟩)) ∧
    (n < minInt64 ∨ maxInt64 < n →
      compile render (callText gap k key l element) =
        .error ⟨callText gap k key l element, .integerOutOfRange l⟩) ∧
    (k = .div → n = 0 →
      compile render (callText gap k key l element) =
        .error ⟨callText gap k key l element, .divisionByZero⟩) := by
  have hlexeme : ∀ {l n}, Numeral l n → Token.IsLexeme ⟨.integer, l⟩ :=
    fun h => ⟨⟨_, h⟩, by simp⟩
  refine ⟨?_, ?_, ?_⟩
  · intro hmin hmax hzero
    have hcompile : ∀ {l}, Numeral l n → compile render (callText gap k key l element) =
        .ok (Assignment.text ⟨y, x, k, (toString n).toList⟩) := by
      intro l hl
      obtain ⟨op, rfl, hvalue, hop⟩ := exists_isOperand_integer render hl hmin hmax hzero
      have hout := compile_of_isOperand hgap hkey helement (hlexeme hl) hop
      rwa [hvalue] at hout
    exact ⟨_, fun _ => isCanonical_and_numeral_iff, hcompile hl, hcompile (numeral_toString n)⟩
  · intro hn
    exact compile_of_fault? hgap hkey helement (hlexeme hl) (by simp) (fault?_outOfRange k hl hn)
  · rintro rfl rfl
    exact compile_of_fault? hgap hkey helement (hlexeme hl) (by simp) (fault?_zero hl)

/-- The least integer of 64 bits with zeros in front of it, the integer after the greatest one, and a
divisor of signed zeros. -/
theorem compile_integer_limits :
    compile (Markdown.render {}) "sub(-0009223372036854775808,amount,\"old mill\")".toList =
      .ok "getRoomOrItem(\"old mill\")[\"amount\"] -= -9223372036854775808;".toList ∧
    compile (Markdown.render {}) "set(amount,+9223372036854775808,\"old mill\")".toList =
      .error ⟨"set(amount,+9223372036854775808,\"old mill\")".toList,
        .integerOutOfRange "+9223372036854775808".toList⟩ ∧
    compile (Markdown.render {}) "div(-00,amount,\"old mill\")".toList =
      .error ⟨"div(-00,amount,\"old mill\")".toList, .divisionByZero⟩ := by
  have hgap : ∀ n : Nat, ∀ c ∈ (fun _ => [] : Nat → List Char) n, isSpace c = true := by simp
  have hkey : IsNameText "amount".toList "amount".toList := by
    refine .identifier ⟨'a', "mount".toList, rfl, by decide, List.all_eq_true.1 (by decide)⟩ ?_
    intro k
    cases k <;> decide
  have helement : IsNameText "\"old mill\"".toList "old mill".toList := by
    have hbody : LiteralBody "old mill".toList := by
      have hplain : '\\' ∉ "old mill".toList := by decide
      simpa [escapeQuote] using literalBody_escapeQuote hplain
    exact .literal hbody
  have hleast : Numeral "-0009223372036854775808".toList (-9223372036854775808) :=
    readInteger_eq_some_iff.1 (by decide +kernel)
  have hlarge : Numeral "+9223372036854775808".toList 9223372036854775808 :=
    readInteger_eq_some_iff.1 (by decide +kernel)
  have hzero : Numeral "-00".toList 0 := readInteger_eq_some_iff.1 (by decide +kernel)
  obtain ⟨hsub, -, -⟩ := compile_integer (Markdown.render {}) hgap .sub hkey helement hleast
  obtain ⟨-, hset, -⟩ := compile_integer (Markdown.render {}) hgap .set hkey helement hlarge
  obtain ⟨-, -, hdiv⟩ := compile_integer (Markdown.render {}) hgap .div hkey helement hzero
  obtain ⟨d, hd, hout, -⟩ := hsub (by decide) (by decide) (by decide)
  obtain rfl : "-9223372036854775808".toList = d :=
    (hd _).1 ⟨.negative (by decide) (by decide), readInteger_eq_some_iff.1 (by decide +kernel)⟩
  exact ⟨hout, hset (.inr (by decide)), hdiv rfl rfl⟩

end Adventure.Action
