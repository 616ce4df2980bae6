import Adventure.Proofs.Action.Slots
import Adventure.Proofs.Action.Spacing

/-!
# Where an action departs from the grammar

Tokens that are no call have a first token with which they stop being the start of one, or they end
too early. What the author is told is decided there, and the tokens behind it do not matter.

* `fault_of_departsAt` : the fault at the first token that departs from the grammar.
* `parse_eq_error_iff_fault` : the failures of the parser are the faults of the tokens.
-/

namespace Adventure.Action

open Number

variable {render : List Char → List Char} {ts us pre rest : List Token} {t : Token} {k : Keyword}

/-! ### Starts of calls -/

/-- The tokens can be completed to a call. -/
def IsCallStart (render : List Char → List Char) (ts : List Token) : Prop :=
  ∃ more call, (∀ t ∈ more, t.IsLexeme) ∧ IsCall render (ts ++ more) call

/-- The tokens `pre` can be completed to a call, but not with `t` as the next token. -/
structure DepartsAt (render : List Char → List Char) (pre : List Token) (t : Token) : Prop where
  start : IsCallStart render pre
  departs : ¬ IsCallStart render (pre ++ [t])

/-- The slot for the token that comes after the given ones in a call. -/
def slotAfter : List Token → Option Slot
  | []      => none
  | t :: ts =>
    match t.kind with
    | .keyword k => (slots k)[ts.length]?
    | _          => none

/-- What is wrong with tokens that are no call, said by the grammar. -/
inductive Fault (render : List Char → List Char) : List Token → Cause → Prop
  /-- The first token is no keyword. -/
  | undefinedStructure {t : Token} {rest : List Token} (h : t.kind.isKeyword = false) :
      Fault render (t :: rest) (.undefinedStructure t)
  /-- All tokens are the start of a call of which a slot is left. -/
  | unexpectedEnd {ts : List Token} {slot : Slot} (h : IsCallStart render ts)
      (hslot : slotAfter ts = some slot) : Fault render ts (.unexpectedEnd slot.expected)
  /-- The first eight tokens are a call. -/
  | trailingTokens {ts : List Token} {t : Token} {call : Call} (h : IsCall render (ts.take 8) call)
      (ht : ts[8]? = some t) : Fault render ts (.trailingTokens t.lexeme)
  /-- An integer in the slot of the value has more than 64 bits. -/
  | integerOutOfRange {pre rest : List Token} {t : Token} {k : Keyword} {n : Int}
      (h : DepartsAt render pre t) (hslot : slotAfter pre = some (.value k))
      (hkind : t.kind = .integer) (hn : Numeral t.lexeme n) (hrange : n < minInt64 ∨ maxInt64 < n) :
      Fault render (pre ++ t :: rest) (.integerOutOfRange t.lexeme)
  /-- The divisor is zero. -/
  | divisionByZero {pre rest : List Token} {t : Token} (h : DepartsAt render pre t)
      (hslot : slotAfter pre = some (.value .div)) (hzero : t.IsInteger 0) :
      Fault render (pre ++ t :: rest) .divisionByZero
  /-- The token is of a kind that has no place in its slot. -/
  | unexpectedToken {pre rest : List Token} {t : Token} {slot : Slot} (h : DepartsAt render pre t)
      (hslot : slotAfter pre = some slot) (hkind : ∀ k, slot = .value k → t.kind ≠ .integer) :
      Fault render (pre ++ t :: rest) (.unexpectedToken slot.expected t.kind)

/-! ### Slots that are filled -/

/-- A keyword `k` and the tokens `us`, which fit into the first slots of its function. The slots
`left` are left. -/
structure Fills (render : List Char → List Char) (ts : List Token) (k : Keyword) (us : List Token)
    (left : List Slot) : Prop where
  exists_head : ∃ t : Token, ts = t :: us ∧ t.kind = .keyword k
  exists_filled : ∃ filled, slots k = filled ++ left ∧ List.Forall₂ (Slot.Fits render) filled us

namespace Fills

variable {slot : Slot} {left : List Slot}

lemma slotAfter_eq (h : Fills render ts k us left) : slotAfter ts = left.head? := by
  obtain ⟨⟨t, rfl, hk⟩, filled, hslots, hfits⟩ := h
  rw [slotAfter, hk]
  show (slots k)[us.length]? = _
  rw [hslots, ← hfits.length_eq, List.getElem?_append_right le_rfl, Nat.sub_self,
    List.head?_eq_getElem?]

lemma append_singleton (h : Fills render ts k us (slot :: left)) (ht : slot.Fits render t) :
    Fills render (ts ++ [t]) k (us ++ [t]) left := by
  obtain ⟨⟨head, rfl, hk⟩, filled, hslots, hfits⟩ := h
  refine ⟨⟨head, rfl, hk⟩, filled ++ [slot], ?_, ?_⟩
  · rw [hslots, List.append_assoc]
    rfl
  · exact List.rel_append hfits (.cons ht .nil)

/-- Tokens that fill all slots are a call. -/
lemma isCall (hl : ∀ t ∈ ts, t.IsLexeme) (h : Fills render ts k us []) :
    ∃ call, IsCall render ts call := by
  obtain ⟨⟨t, hts, hk⟩, filled, hslots, hfits⟩ := h
  rw [List.append_nil] at hslots
  exact (exists_isCall_iff hl).2 ⟨t, k, us, hts, hk, hslots ▸ hfits⟩

/-- What the parser does behind the tokens that fill the first slots. -/
lemma checkSlots_eq (h : Fills render ts k us left) (rest : List Token) :
    checkSlots (slots k) (us ++ rest) = checkSlots left rest := by
  obtain ⟨-, filled, hslots, hfits⟩ := h
  rw [hslots]
  exact checkSlots_append hfits left rest

/-- The slots that are left can be filled. -/
lemma isCallStart (hl : ∀ t ∈ ts, t.IsLexeme) (h : Fills render ts k us left) :
    IsCallStart render ts := by
  -- Each slot that is left is filled with a token that fits, whatever it is.
  induction left generalizing ts us with
  | nil =>
    obtain ⟨call, hcall⟩ := h.isCall hl
    exact ⟨[], call, by simp, by rwa [List.append_nil]⟩
  | cons slot left ih =>
    have hslot : slot ∈ slots k := by
      obtain ⟨-, filled, hslots, -⟩ := h
      rw [hslots]
      exact List.mem_append_right _ (List.mem_cons_self ..)
    obtain ⟨t, ht, hfits⟩ := exists_fits render hslot
    have hl' : ∀ x ∈ ts ++ [t], x.IsLexeme := by
      simpa [or_imp, forall_and] using And.intro hl ht
    obtain ⟨more, call, hmore, hcall⟩ := ih hl' (h.append_singleton hfits)
    rw [List.append_assoc] at hcall
    exact ⟨t :: more, call, List.forall_mem_cons.2 ⟨ht, hmore⟩, hcall⟩

end Fills

/-- A call fills all slots of its function. -/
lemma IsCall.fills {call : Call} (hl : ∀ t ∈ ts, t.IsLexeme) (h : IsCall render ts call) :
    ∃ k us, Fills render ts k us [] := by
  obtain ⟨t, k, us, rfl, hk, hfits⟩ := (exists_isCall_iff hl).1 ⟨call, h⟩
  exact ⟨k, us, ⟨t, rfl, hk⟩, slots k, (List.append_nil _).symm, hfits⟩

/-- A start of a call fills the first slots. -/
lemma IsCallStart.fills (hl : ∀ t ∈ ts, t.IsLexeme) (hne : ts ≠ []) (h : IsCallStart render ts) :
    ∃ k us left, Fills render ts k us left := by
  obtain ⟨more, call, hmore, hcall⟩ := h
  have hl' : ∀ t ∈ ts ++ more, t.IsLexeme :=
    fun t ht => (List.mem_append.1 ht).elim (hl t) (hmore t)
  obtain ⟨t, us, rfl⟩ := List.exists_cons_of_ne_nil hne
  obtain ⟨t', k, us', hts, hk, hfits⟩ := (exists_isCall_iff hl').1 ⟨call, hcall⟩
  obtain ⟨rfl, rfl⟩ := List.cons.inj hts
  refine ⟨k, us, (slots k).drop us.length, ⟨t, rfl, hk⟩, (slots k).take us.length,
    (List.take_append_drop _ _).symm, ?_⟩
  exact List.forall₂_take_append _ _ _ hfits

/-- Every keyword starts a call. -/
lemma isCallStart_keyword (render : List Char → List Char) (hl : t.IsLexeme)
    (hk : t.kind = .keyword k) : IsCallStart render [t] := by
  have hfills : Fills render [t] k [] (slots k) := ⟨⟨t, rfl, hk⟩, [], rfl, .nil⟩
  exact hfills.isCallStart (by simpa using hl)

/-! ### The fault at the departing token -/

lemma isCallStart_nil : IsCallStart render [] := by
  obtain ⟨more, call, hmore, hcall⟩ :=
    isCallStart_keyword render (Token.isLexeme_ofKeyword .set) rfl
  exact ⟨_, call, List.forall_mem_cons.2 ⟨Token.isLexeme_ofKeyword .set, hmore⟩, hcall⟩

lemma IsCall.length_eq {call : Call} (h : IsCall render ts call) : ts.length = 8 := by
  obtain ⟨key, value, element, rfl, -⟩ := h
  cases call.operation.keyword <;> rfl

namespace DepartsAt

variable {slot : Slot} {left : List Slot}

/-- The departing token does not fit into the first slot that is left. -/
lemma not_fits (hl : ∀ x ∈ pre ++ [t], x.IsLexeme) (h : DepartsAt render pre t)
    (hfills : Fills render pre k us (slot :: left)) : ¬ slot.Fits render t :=
  fun hfits => h.departs ((hfills.append_singleton hfits).isCallStart hl)

end DepartsAt

/-- A token other than an integer for a value that does not fit is of the wrong kind. -/
lemma Slot.fault?_eq_unexpectedToken {s : Slot} (h : ¬ s.Fits render t)
    (hkind : ∀ k, s = .value k → t.kind ≠ .integer) :
    s.fault? t = some (.unexpectedToken s.expected t.kind) := by
  rw [← fault?_eq_none_iff] at h
  unfold fault? at h ⊢
  split at h
  · exact absurd rfl h
  · exact absurd rfl h
  · exact absurd rfl h
  · next k hk => exact absurd hk (hkind k rfl)
  · split_ifs at h ⊢ <;> simp_all

/-- The first token that departs from the grammar decides what is wrong, whatever comes after it. -/
theorem fault_of_departsAt (hl : ∀ x ∈ pre ++ [t], x.IsLexeme) (h : DepartsAt render pre t) :
    ∃ c, ∀ rest, Fault render (pre ++ t :: rest) c := by
  obtain ⟨hpre, ht⟩ := List.forall_mem_append.1 hl
  rw [List.forall_mem_singleton] at ht
  by_cases hnil : pre = []
  · subst hnil
    refine ⟨.undefinedStructure t, fun rest => .undefinedStructure ?_⟩
    rw [← Bool.not_eq_true]
    intro hkey
    obtain ⟨k, hk⟩ : ∃ k, t.kind = .keyword k := by
      cases hkind : t.kind <;> simp_all [TokenKind.isKeyword]
    exact h.departs (isCallStart_keyword render ht hk)
  obtain ⟨k, us, left, hfills⟩ := h.start.fills hpre hnil
  cases left with
  | nil =>
    obtain ⟨call, hcall⟩ := hfills.isCall hpre
    have hlen := hcall.length_eq
    refine ⟨.trailingTokens t.lexeme, fun rest => ?_⟩
    have htake : IsCall render ((pre ++ t :: rest).take 8) call := by rwa [← hlen, List.take_left]
    apply Fault.trailingTokens htake
    rw [← hlen, List.getElem?_append_right le_rfl, Nat.sub_self]
    rfl
  | cons slot left =>
    have hslot : slotAfter pre = some slot := hfills.slotAfter_eq
    have hfits := h.not_fits hl hfills
    -- An integer for a value is at fault for what it denotes, any other token for its kind.
    by_cases hvalue : ∃ k, slot = .value k ∧ t.kind = .integer
    · obtain ⟨k, rfl, hkind⟩ := hvalue
      obtain ⟨kind, l⟩ := t
      obtain rfl : kind = .integer := hkind
      obtain ⟨n, hn⟩ : ∃ n, Numeral l n := ht.matchesKind
      by_cases hrange : minInt64 ≤ n ∧ n ≤ maxInt64
      · have hread : readInt64 l = some n := readInt64_eq_some_iff.2 ⟨hn, hrange⟩
        have hzero : k = .div ∧ n = 0 := by
          by_contra hne
          exact hfits (Slot.fits_value_integer.2 ⟨n, hread, by tauto⟩)
        obtain ⟨rfl, rfl⟩ := hzero
        exact ⟨_, fun rest => .divisionByZero h hslot (.mk hn hrange.1 hrange.2)⟩
      · exact ⟨_, fun rest => .integerOutOfRange h hslot rfl hn (by omega)⟩
    · exact ⟨_, fun rest => .unexpectedToken h hslot fun k hk ht => hvalue ⟨k, hk, ht⟩⟩

/-! ### What the parser says -/

lemma forall_isLexeme_concat (hl : ∀ x ∈ pre ++ t :: rest, x.IsLexeme) :
    ∀ x ∈ pre ++ [t], x.IsLexeme := by
  intro x hx
  apply hl
  rw [List.append_cons]
  exact List.mem_append_left _ hx

lemma readCall_eq_error (hk : t.kind = .keyword k) {c : Cause}
    (h : checkSlots (slots k) ts = .error c) : readCall render (t :: ts) = .error c := by
  rw [← readArguments_eq_checkSlots render] at h
  have hread : readArguments render k ts = .error c := by
    cases hx : readArguments render k ts <;> simp_all [Except.map]
  rw [readCall, hk]
  simp [hread, bind, Except.bind]

/-- Tokens behind a complete call are one too many, and the first of them is reported. -/
lemma readCall_eq_trailing (hk : t.kind = .keyword k) {t' : Token}
    (h : checkSlots (slots k) ts = .ok (t' :: rest)) :
    readCall render (t :: ts) = .error (.trailingTokens t'.lexeme) := by
  rw [← readArguments_eq_checkSlots render] at h
  obtain ⟨call, hread⟩ : ∃ call, readArguments render k ts = .ok (call, t' :: rest) := by
    cases hx : readArguments render k ts with
    | error c => simp [hx, Except.map] at h
    | ok x =>
      obtain ⟨call, r⟩ := x
      obtain rfl : r = t' :: rest := by simpa [hx, Except.map] using h
      exact ⟨call, rfl⟩
  rw [readCall, hk]
  simp [hread, bind, Except.bind, throw, throwThe, MonadExceptOf.throw]

/-- A token that is wrong in its slot is reported, whatever stands behind it. -/
lemma readCall_of_fault? {slot : Slot} {left : List Slot} {c : Cause}
    (h : Fills render pre k us (slot :: left)) (hc : slot.fault? t = some c) :
    readCall render (pre ++ t :: rest) = .error c := by
  obtain ⟨head, rfl, hk⟩ := h.exists_head
  rw [List.cons_append]
  apply readCall_eq_error hk
  rw [h.checkSlots_eq, checkSlots, Slot.check, hc]
  rfl

/-- Where the tokens depart from a call, those in front of the place fill slots. -/
lemma DepartsAt.exists_fills {slot : Slot} (hl : ∀ x ∈ pre, x.IsLexeme) (h : DepartsAt render pre t)
    (hslot : slotAfter pre = some slot) : ∃ k us left, Fills render pre k us (slot :: left) := by
  have hne : pre ≠ [] := by
    rintro rfl
    cases hslot
  obtain ⟨k, us, left, hfills⟩ := h.start.fills hl hne
  obtain ⟨left, rfl⟩ := List.head?_eq_some_iff.1 (hfills.slotAfter_eq.symm.trans hslot)
  exact ⟨k, us, left, hfills⟩

/-- The parser fails with the fault of the tokens. -/
theorem Fault.readCall_eq {c : Cause} (hl : ∀ t ∈ ts, t.IsLexeme) (h : Fault render ts c) :
    readCall render ts = .error c := by
  cases h with
  | undefinedStructure h =>
    rw [readCall]
    split
    · next k hk => simp [hk, TokenKind.isKeyword] at h
    · rfl
  | @unexpectedEnd _ slot h hslot =>  -- the first slot that is left finds no token
    have hne : ts ≠ [] := by
      rintro rfl
      cases hslot
    obtain ⟨k, us, left, hfills⟩ := h.fills hl hne
    obtain ⟨left, rfl⟩ := List.head?_eq_some_iff.1 (hfills.slotAfter_eq.symm.trans hslot)
    obtain ⟨head, rfl, hk⟩ := hfills.exists_head
    apply readCall_eq_error hk
    rw [← List.append_nil us, hfills.checkSlots_eq]
    rfl
  | @trailingTokens _ t call h ht =>  -- eight tokens fill all slots, and `t` is the ninth
    obtain ⟨hlen, ht⟩ := List.getElem?_eq_some_iff.1 ht
    have hts : ts = ts.take 8 ++ t :: ts.drop 9 := by
      rw [← ht, ← List.drop_eq_getElem_cons, List.take_append_drop]
    obtain ⟨k, us, hfills⟩ := h.fills fun x hx => hl x (List.mem_of_mem_take hx)
    obtain ⟨head, hhead, hk⟩ := hfills.exists_head
    rw [hts, hhead, List.cons_append]
    apply readCall_eq_trailing hk
    rw [hfills.checkSlots_eq]
    rfl
  | @integerOutOfRange pre rest t k n h hslot hkind hn hrange =>
    obtain ⟨k', us, left, hfills⟩ := h.exists_fills (fun x hx => hl x (by simp [hx])) hslot
    refine readCall_of_fault? hfills ?_
    simp [Slot.fault?, hkind, readInt64_eq_none hn hrange]
  | @divisionByZero pre rest t h hslot hzero =>
    obtain ⟨k', us, left, hfills⟩ := h.exists_fills (fun x hx => hl x (by simp [hx])) hslot
    refine readCall_of_fault? hfills ?_
    obtain ⟨hn, hmin, hmax⟩ := hzero
    simp [Slot.fault?, readInt64_eq_some_iff.2 ⟨hn, hmin, hmax⟩]
  | @unexpectedToken pre rest t slot h hslot hkind =>
    obtain ⟨k', us, left, hfills⟩ := h.exists_fills (fun x hx => hl x (by simp [hx])) hslot
    have hfits := h.not_fits (forall_isLexeme_concat hl) hfills
    exact readCall_of_fault? hfills (Slot.fault?_eq_unexpectedToken hfits hkind)

/-- Tokens that are no call have a first one that departs from the grammar, or end too early. -/
lemma exists_departsAt (h : ¬ IsCallStart render ts) :
    ∃ pre t rest, ts = pre ++ t :: rest ∧ DepartsAt render pre t := by
  -- From the end: the last token departs, or the tokens in front of it do without it.
  induction ts using List.reverseRecOn with
  | nil => exact absurd isCallStart_nil h
  | append_singleton ts t ih =>
    by_cases hts : IsCallStart render ts
    · exact ⟨ts, t, [], rfl, hts, h⟩
    · obtain ⟨pre, t', rest, rfl, hdeparts⟩ := ih hts
      exact ⟨pre, t', rest ++ [t], by simp, hdeparts⟩

/-- Tokens that are no call have a fault. -/
theorem exists_fault (hl : ∀ t ∈ ts, t.IsLexeme) (hne : ts ≠ [])
    (h : ∀ call, ¬ IsCall render ts call) : ∃ c, Fault render ts c := by
  by_cases hstart : IsCallStart render ts
  · obtain ⟨k, us, left, hfills⟩ := hstart.fills hl hne
    cases left with
    | nil =>
      obtain ⟨call, hcall⟩ := hfills.isCall hl
      exact absurd hcall (h call)
    | cons slot left => exact ⟨_, .unexpectedEnd hstart hfills.slotAfter_eq⟩
  · obtain ⟨pre, t, rest, rfl, hdeparts⟩ := exists_departsAt hstart
    obtain ⟨c, hc⟩ := fault_of_departsAt (forall_isLexeme_concat hl) hdeparts
    exact ⟨c, hc rest⟩

/-! ### Failures of the parser -/

lemma parse_of_lex {action : List Char} (h : lex action = .ok ts) :
    parse render action = (readCall render ts).mapError (⟨action, ·⟩) := by
  rw [parse, h]
  rfl

lemma isLexeme_of_lex {action : List Char} (h : lex action = .ok ts) : ∀ t ∈ ts, t.IsLexeme := by
  obtain ⟨us, hus, rfl⟩ := lex_eq_ok_iff.1 h
  exact (tokenize_eq_ok_iff.1 hus).2.isLexeme_of_mem_significant

/-- A fault of the tokens is reported together with the whole action. -/
lemma parse_eq_error_of_fault {action : List Char} {c : Cause} (h : lex action = .ok ts)
    (hc : Fault render ts c) : parse render action = .error ⟨action, c⟩ := by
  rw [parse_of_lex h, hc.readCall_eq (isLexeme_of_lex h)]
  rfl

/-- If the tokens of an action are known, it fails for a fault of the tokens. -/
lemma fault_of_parse_eq_error {action : List Char} {f : Failure} (h : lex action = .ok ts)
    (hne : ts ≠ []) (hf : parse render action = .error f) :
    f.action = action ∧ Fault render ts f.cause := by
  have hl := isLexeme_of_lex h
  have hcall : ∀ call, ¬ IsCall render ts call := by
    intro call hcall
    rw [parse_of_lex h, readCall_of_isCall hcall] at hf
    cases hf
  obtain ⟨c, hc⟩ := exists_fault hl hne hcall
  rw [parse_eq_error_of_fault h hc] at hf
  obtain rfl := Except.error.inj hf
  exact ⟨rfl, hc⟩

/-- A part of a call from the front is the start of a call of which a slot is left. -/
lemma exists_slotAfter {call : Call} (hl : ∀ t ∈ ts, t.IsLexeme) (h : IsCall render ts call)
    (hpre : pre <+: ts) (hnil : pre ≠ []) (hne : pre ≠ ts) :
    IsCallStart render pre ∧ ∃ slot, slotAfter pre = some slot := by
  obtain ⟨more, rfl⟩ := hpre
  obtain ⟨hl, hmore⟩ := List.forall_mem_append.1 hl
  have hstart : IsCallStart render pre := ⟨more, call, hmore, h⟩
  refine ⟨hstart, ?_⟩
  obtain ⟨k, us, left, hfills⟩ := hstart.fills hl hnil
  cases left with
  | nil =>
    obtain ⟨call', hcall'⟩ := hfills.isCall hl
    have hlen := h.length_eq
    rw [List.length_append, hcall'.length_eq] at hlen
    have hmore : more = [] := List.length_eq_zero_iff.1 (by omega)
    exact absurd (by rw [hmore, List.append_nil]) hne
  | cons slot left => exact ⟨slot, hfills.slotAfter_eq⟩

/-- The failures of the parser are the faults of the tokens: the first token that departs from the
grammar decides, and without one the tokens end too early. The tokens after the departing one do not
matter, and every part of a call from the front ends too early. A text that is not cut into tokens
fails where no rule applies. -/
theorem parse_eq_error_iff_fault (render : List Char → List Char) (action : List Char) :
    (∀ r, tokenize action = .error r →
      parse render action = .error ⟨action, .undefinedToken r⟩) ∧
    ∀ ts, lex action = .ok ts → ts ≠ [] →
      (∀ f, parse render action = .error f ↔ f.action = action ∧ Fault render ts f.cause) ∧
      (∀ pre t rest, ts = pre ++ t :: rest → DepartsAt render pre t →
        ∀ action' rest', lex action' = .ok (pre ++ t :: rest') →
          ∃ c, parse render action = .error ⟨action, c⟩ ∧
            parse render action' = .error ⟨action', c⟩) ∧
      ∀ call, parse render action = .ok call →
        ∀ action' ts', lex action' = .ok ts' → ts' ≠ [] → ts' <+: ts → ts' ≠ ts →
          ∃ slot, slotAfter ts' = some slot ∧
            parse render action' = .error ⟨action', .unexpectedEnd slot.expected⟩ := by
  refine ⟨?_, ?_⟩
  · intro r hr
    rw [parse, lex, hr]
    rfl
  intro ts hts hne
  refine ⟨?_, ?_, ?_⟩
  · intro f
    refine ⟨fault_of_parse_eq_error hts hne, ?_⟩
    rintro ⟨rfl, hc⟩
    exact parse_eq_error_of_fault hts hc
  · -- The fault depends on the tokens up to `t` only, and both actions have these.
    rintro pre t rest rfl hdeparts action' rest' hts'
    have hl := forall_isLexeme_concat (isLexeme_of_lex hts)
    obtain ⟨c, hc⟩ := fault_of_departsAt hl hdeparts
    exact ⟨c, parse_eq_error_of_fault hts (hc rest), parse_eq_error_of_fault hts' (hc rest')⟩
  · intro call hcall action' ts' hts' hnil hpre hne'
    rw [parse_of_lex hts, mapError_eq_ok_iff, readCall_eq_ok_iff (isLexeme_of_lex hts)] at hcall
    obtain ⟨hstart, slot, hslot⟩ := exists_slotAfter (isLexeme_of_lex hts) hcall hpre hnil hne'
    exact ⟨slot, hslot, parse_eq_error_of_fault hts' (.unexpectedEnd hstart hslot)⟩

/-- A division by zero is found before the call ends too early. -/
theorem parse_eq_error_iff_fault_zero :
    Fault id [.ofKeyword .div, .oparen, ⟨.integer, ['0']⟩, .comma, ⟨.identifier, "amount".toList⟩]
      .divisionByZero := by
  have hlex : lex "div(0, amount".toList = .ok [.ofKeyword .div, .oparen, ⟨.integer, ['0']⟩, .comma,
      ⟨.identifier, "amount".toList⟩] := by decide +kernel
  have hparse : parse id "div(0, amount".toList =
      .error ⟨"div(0, amount".toList, .divisionByZero⟩ := by decide +kernel
  obtain ⟨hfaults, -, -⟩ := (parse_eq_error_iff_fault id _).2 _ hlex (by simp)
  exact ((hfaults _).1 hparse).2

end Adventure.Action
