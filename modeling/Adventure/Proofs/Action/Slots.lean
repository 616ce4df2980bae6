import Adventure.Proofs.Action.Calls
import Mathlib.Data.List.Forall2

/-!
# The places of a call

Behind its keyword a call has seven places, each for one token: marks, two names and a value. The
parser goes through the places from left to right and stops at the first token that does not fit, or
where the tokens run out.

* `readArguments_eq_checkSlots` : the parser, place by place.
* `exists_isCall_iff` : calls are the tokens that fit into the places.
-/

namespace Adventure.Action

open Number

variable {render : List Char → List Char}

/-- A place behind the keyword of a call. -/
inductive Slot where
  /-- For a parenthesis or a comma. -/
  | mark (kind : TokenKind)
  | name
  /-- For a value that the function takes. -/
  | value (function : Keyword)
  deriving DecidableEq, Repr

/-- The places of a call of the function. -/
def slots : Keyword → List Slot
  | .set =>
    [.mark .oparen, .name, .mark .comma, .value .set, .mark .comma, .name, .mark .cparen]
  | k =>
    [.mark .oparen, .value k, .mark .comma, .name, .mark .comma, .name, .mark .cparen]

namespace Slot

/-- The kind of token that the author is told to put into the slot. Of several kinds that would fit
it is the one that is tried last. -/
def expected : Slot → TokenKind
  | .mark kind  => kind
  | .name       => .identifier
  | .value .set => .string
  | .value .add => .string
  | .value _    => .integer

/-- The token fits into the slot. -/
def Fits (render : List Char → List Char) : Slot → Token → Prop
  | .mark kind, t => t.kind = kind
  | .name,      t => ∃ x, t.IsName x
  | .value k,   t => ∃ op : Operation, op.keyword = k ∧ t.IsOperand render op

/-- What is wrong with the token in the slot, if anything. -/
def fault? (slot : Slot) (t : Token) : Option Cause :=
  match slot, t.kind with
  | .name,       .string   => none
  | .value .set, .mdString => none
  | .value .add, .mdString => none
  | .value k,    .integer  =>
    match readInt64 t.lexeme with
    | none   => some (.integerOutOfRange t.lexeme)
    | some n => if k = .div ∧ n = 0 then some .divisionByZero else none
  | slot, kind => if kind = slot.expected then none else some (.unexpectedToken slot.expected kind)

/-- Takes a token that fits into the slot off the front. -/
def check (slot : Slot) : List Token → Except Cause (List Token)
  | []      => .error (.unexpectedEnd slot.expected)
  | t :: ts => (slot.fault? t).elim (.ok ts) .error

end Slot

/-- Takes a token for each of the slots off the front. -/
def checkSlots : List Slot → List Token → Except Cause (List Token)
  | [],      ts => .ok ts
  | s :: ss, ts => s.check ts >>= checkSlots ss

/-! ### The readers, slot by slot -/

lemma skipToken_eq_check (k : TokenKind) (ts : List Token) :
    skipToken k ts = (Slot.mark k).check ts := by
  cases ts with
  | nil => rfl
  | cons t ts =>
    rw [skipToken, readToken]
    split_ifs with h <;> simp [Slot.check, Slot.fault?, Slot.expected, h, bind, Except.bind, pure,
      Except.pure]

lemma readName_eq_check (ts : List Token) : (readName ts).map Prod.snd = Slot.name.check ts := by
  rcases ts with _ | ⟨⟨k, l⟩, ts⟩
  · rfl
  · cases k <;> rfl

lemma readInteger_cons (l : List Char) (ts : List Token) :
    Action.readInteger (⟨.integer, l⟩ :: ts) =
      (readInt64 l).elim (.error (.integerOutOfRange l)) fun n => .ok (n, ts) := by
  cases h : readInt64 l <;>
    simp [Action.readInteger, readToken, h, bind, Except.bind, pure, Except.pure, throw, throwThe,
      MonadExceptOf.throw]

lemma check_value_integer (k : Keyword) (l : List Char) (ts : List Token) :
    (Slot.value k).check (⟨.integer, l⟩ :: ts) =
      (readInt64 l).elim (.error (.integerOutOfRange l)) fun n =>
        if k = .div ∧ n = 0 then .error .divisionByZero else .ok ts := by
  cases h : readInt64 l with
  | none => simp [Slot.check, Slot.fault?, h]
  | some n => by_cases hz : k = .div ∧ n = 0 <;> simp [Slot.check, Slot.fault?, h, hz]

lemma readInteger_eq_check {k : Keyword} (hk : k = .sub ∨ k = .mul) (ts : List Token) :
    (Action.readInteger ts).map Prod.snd = (Slot.value k).check ts := by
  rcases ts with _ | ⟨⟨kind, l⟩, ts⟩
  · rcases hk with rfl | rfl <;> rfl
  · cases kind with
    | integer =>
      have hdiv : k ≠ .div := by rcases hk with rfl | rfl <;> decide
      rw [readInteger_cons, check_value_integer]
      cases readInt64 l <;> simp [hdiv, Except.map]
    | _ => rcases hk with rfl | rfl <;> rfl

lemma readDivisor_eq_check (ts : List Token) :
    (readDivisor ts).map Prod.snd = (Slot.value .div).check ts := by
  rcases ts with _ | ⟨⟨kind, l⟩, ts⟩
  · rfl
  · cases kind with
    | integer =>
      rw [readDivisor, readInteger_cons, check_value_integer]
      cases readInt64 l with
      | none => rfl
      | some n =>
        by_cases hn : n = 0 <;>
          simp [hn, bind, Except.bind, Except.map, pure, Except.pure, throw, throwThe,
            MonadExceptOf.throw]
    | _ => rfl

lemma readValue_eq_check {k : Keyword} (hk : k = .set ∨ k = .add) (ts : List Token) :
    (readValue render ts).map Prod.snd = (Slot.value k).check ts := by
  rcases ts with _ | ⟨⟨kind, l⟩, ts⟩
  · rcases hk with rfl | rfl <;> rfl
  · cases kind with
    | integer =>
      have hdiv : k ≠ .div := by rcases hk with rfl | rfl <;> decide
      simp only [readValue, readInteger_cons, check_value_integer]
      cases readInt64 l <;> simp [hdiv, bind, Except.bind, Except.map, pure, Except.pure]
    | _ => rcases hk with rfl | rfl <;> rfl

/-- A reader that first reads the slot `s` and then the slots `ss`. -/
lemma map_snd_bind {α β : Type} {s : Slot} {ss : List Slot} {ts : List Token}
    {x : Except Cause (β × List Token)} {f : β × List Token → Except Cause (α × List Token)}
    (hx : x.map Prod.snd = s.check ts) (hf : ∀ b r, (f (b, r)).map Prod.snd = checkSlots ss r) :
    (x >>= f).map Prod.snd = checkSlots (s :: ss) ts := by
  rw [checkSlots, ← hx]
  cases x with
  | error e => rfl
  | ok p => exact hf p.1 p.2

/-- A mark in front of other places is one more slot. -/
lemma map_snd_skip {α : Type} {k : TokenKind} {ss : List Slot} {ts : List Token}
    {f : List Token → Except Cause (α × List Token)}
    (hf : ∀ r, (f r).map Prod.snd = checkSlots ss r) :
    (skipToken k ts >>= f).map Prod.snd = checkSlots (.mark k :: ss) ts := by
  rw [checkSlots, ← skipToken_eq_check]
  cases skipToken k ts with
  | error e => rfl
  | ok r => exact hf r

/-- The reader of `set` takes what its slots take, and fails as they do. -/
lemma readKeyFirst_eq_checkSlots (ts : List Token) :
    (readKeyFirst render ts).map Prod.snd = checkSlots (slots .set) ts := by
  refine map_snd_skip fun ts => ?_
  refine map_snd_bind (readName_eq_check ts) fun key ts => ?_
  refine map_snd_skip fun ts => ?_
  refine map_snd_bind (readValue_eq_check (.inl rfl) ts) fun v ts => ?_
  refine map_snd_skip fun ts => ?_
  refine map_snd_bind (readName_eq_check ts) fun element ts => ?_
  exact map_snd_skip fun ts => rfl

/-- The reader of the last places takes what their slots take, and fails as they do. -/
lemma readKeyAndElement_eq_checkSlots (ts : List Token) :
    (readKeyAndElement ts).map Prod.snd =
      checkSlots [.mark .comma, .name, .mark .comma, .name, .mark .cparen] ts := by
  refine map_snd_skip fun ts => ?_
  refine map_snd_bind (readName_eq_check ts) fun key ts => ?_
  refine map_snd_skip fun ts => ?_
  refine map_snd_bind (readName_eq_check ts) fun element ts => ?_
  exact map_snd_skip fun ts => rfl

/-- The reader of a call whose value comes first takes what the slots take, and fails as they do. -/
lemma readValueFirst_eq_checkSlots {α : Type} {value : Reader α} {operation : α → Operation}
    {k : Keyword} (hvalue : ∀ ts, (value ts).map Prod.snd = (Slot.value k).check ts)
    (ts : List Token) :
    (readValueFirst value operation ts).map Prod.snd =
      checkSlots [.mark .oparen, .value k, .mark .comma, .name, .mark .comma, .name,
        .mark .cparen] ts := by
  refine map_snd_skip fun ts => ?_
  refine map_snd_bind (hvalue ts) fun v ts => ?_
  rw [← readKeyAndElement_eq_checkSlots]
  dsimp only
  cases readKeyAndElement ts <;> rfl

/-- The parser goes through the slots of a call. -/
theorem readArguments_eq_checkSlots (render : List Char → List Char) (k : Keyword)
    (ts : List Token) :
    (readArguments render k ts).map Prod.snd = checkSlots (slots k) ts := by
  cases k with
  | set => exact readKeyFirst_eq_checkSlots ts
  | add => exact readValueFirst_eq_checkSlots (readValue_eq_check (.inr rfl)) ts
  | sub => exact readValueFirst_eq_checkSlots (readInteger_eq_check (.inl rfl)) ts
  | mul => exact readValueFirst_eq_checkSlots (readInteger_eq_check (.inr rfl)) ts
  | div =>
    rw [readArguments]
    exact readValueFirst_eq_checkSlots readDivisor_eq_check ts

/-! ### Tokens that fit -/

namespace Slot

lemma fault?_mark {kind : TokenKind} {t : Token} :
    (Slot.mark kind).fault? t = none ↔ (Slot.mark kind).Fits render t := by
  obtain ⟨k, l⟩ := t
  by_cases h : k = kind <;> simp [fault?, Fits, expected, h]

lemma fault?_name {t : Token} : Slot.name.fault? t = none ↔ Slot.name.Fits render t := by
  obtain ⟨k, l⟩ := t
  constructor
  · intro h
    cases k with
    | string => exact ⟨_, .string l⟩
    | identifier => exact ⟨_, .identifier l⟩
    | _ => cases h
  · rintro ⟨x, h⟩
    cases h <;> rfl

/-- An integer fits if it has 64 bits, and is not zero for `div`. -/
lemma fits_value_integer {k : Keyword} {l : List Char} :
    (Slot.value k).Fits render ⟨.integer, l⟩ ↔
      ∃ n, readInt64 l = some n ∧ (k = .div → n ≠ 0) := by
  have hint : ∀ n, Token.IsInteger ⟨.integer, l⟩ n ↔ readInt64 l = some n := by
    intro n
    rw [readInt64_eq_some_iff]
    constructor
    · rintro ⟨hnum, hmin, hmax⟩
      exact ⟨hnum, hmin, hmax⟩
    · rintro ⟨hnum, hmin, hmax⟩
      exact ⟨hnum, hmin, hmax⟩
  constructor
  · rintro ⟨op, rfl, ⟨⟨h⟩⟩ | ⟨⟨h⟩⟩ | h | h | ⟨h, hn⟩⟩
    · exact ⟨_, (hint _).1 h, nofun⟩
    · exact ⟨_, (hint _).1 h, nofun⟩
    · exact ⟨_, (hint _).1 h, nofun⟩
    · exact ⟨_, (hint _).1 h, nofun⟩
    · exact ⟨_, (hint _).1 h, fun _ => hn⟩
  · rintro ⟨n, hn, hdiv⟩
    have h := (hint n).2 hn
    cases k with
    | set => exact ⟨_, rfl, .set (.integer h)⟩
    | add => exact ⟨_, rfl, .add (.integer h)⟩
    | sub => exact ⟨_, rfl, .sub h⟩
    | mul => exact ⟨_, rfl, .mul h⟩
    | div => exact ⟨_, rfl, .div h (hdiv rfl)⟩

lemma fits_value_of_isValue {k : Keyword} (hk : k = .set ∨ k = .add) {t : Token} {v : Value}
    (h : t.IsValue render v) : (Slot.value k).Fits render t := by
  rcases hk with rfl | rfl
  · exact ⟨_, rfl, .set h⟩
  · exact ⟨_, rfl, .add h⟩

/-- The arithmetic functions take nothing but integers. -/
lemma Fits.kind_eq_integer {k : Keyword} (hk : ¬ (k = .set ∨ k = .add)) {t : Token}
    (h : (Slot.value k).Fits render t) : t.kind = .integer := by
  obtain ⟨op, rfl, h⟩ := h
  rcases h with _ | _ | ⟨⟨⟩⟩ | ⟨⟨⟩⟩ | ⟨⟨⟩, _⟩
  · exact absurd (.inl rfl) hk
  · exact absurd (.inr rfl) hk
  · rfl
  · rfl
  · rfl

/-- Nothing is wrong with a value exactly if it fits. The function decides between the kinds of
values. -/
lemma fault?_value {k : Keyword} {t : Token} :
    (Slot.value k).fault? t = none ↔ (Slot.value k).Fits render t := by
  obtain ⟨kind, l⟩ := t
  by_cases hint : kind = .integer
  · subst hint
    rw [fits_value_integer]
    cases h : readInt64 l with
    | none => simp [fault?, h]
    | some n =>
      by_cases hz : k = .div ∧ n = 0
      · simp [fault?, h, hz]
      · simp only [fault?, h, hz, if_false, Option.some.injEq, exists_eq_left', true_iff]
        tauto
  by_cases hk : k = .set ∨ k = .add
  · cases kind with
    | integer => exact absurd rfl hint
    | mdString =>
      exact iff_of_true (by rcases hk with rfl | rfl <;> rfl)
        (fits_value_of_isValue hk (.mdString l))
    | string =>
      exact iff_of_true (by rcases hk with rfl | rfl <;> rfl) (fits_value_of_isValue hk (.string l))
    | _ =>
      refine iff_of_false (by rcases hk with rfl | rfl <;> simp [fault?, expected]) ?_
      rintro ⟨op, -, h⟩
      rcases h with (⟨⟨⟩⟩ | _ | _) | (⟨⟨⟩⟩ | _ | _) | ⟨⟨⟩⟩ | ⟨⟨⟩⟩ | ⟨⟨⟩, _⟩
  · refine iff_of_false ?_ fun h => hint (h.kind_eq_integer hk)
    cases k with
    | set => exact absurd (.inl rfl) hk
    | add => exact absurd (.inr rfl) hk
    | _ => cases kind <;> first | exact absurd rfl hint | simp [fault?, expected]

/-- Nothing is wrong with the tokens that fit. -/
lemma fault?_eq_none_iff {s : Slot} {t : Token} : s.fault? t = none ↔ s.Fits render t := by
  cases s with
  | mark kind => exact fault?_mark
  | name => exact fault?_name
  | value k => exact fault?_value

lemma check_cons_of_fits {s : Slot} {t : Token} (h : s.Fits render t) (ts : List Token) :
    s.check (t :: ts) = .ok ts := by
  rw [check, fault?_eq_none_iff.2 h]
  rfl

end Slot

/-- Tokens that fit into the first slots leave the other slots to the tokens behind them. -/
lemma checkSlots_append {ss : List Slot} {us : List Token}
    (h : List.Forall₂ (Slot.Fits render) ss us) (ss' : List Slot) (ts : List Token) :
    checkSlots (ss ++ ss') (us ++ ts) = checkSlots ss' ts := by
  induction h with
  | nil => rfl
  | cons h _ ih =>
    rw [List.cons_append, List.cons_append, checkSlots, Slot.check_cons_of_fits h]
    exact ih

/-- The checks use up all tokens exactly if each of them fits into its slot. -/
lemma checkSlots_eq_ok_nil_iff {ss : List Slot} {us : List Token} :
    checkSlots ss us = .ok [] ↔ List.Forall₂ (Slot.Fits render) ss us := by
  constructor
  · intro h
    induction ss generalizing us with
    | nil =>
      obtain rfl := Except.ok.inj h
      exact .nil
    | cons s ss ih =>
      obtain ⟨r, hr, hss⟩ := bind_eq_ok_iff.1 h
      cases us with
      | nil => cases hr
      | cons t us =>
        rw [Slot.check] at hr
        cases hf : s.fault? t with
        | none =>
          rw [hf] at hr
          obtain rfl := Except.ok.inj hr
          exact .cons (Slot.fault?_eq_none_iff.1 hf) (ih hss)
        | some c =>
          rw [hf] at hr
          cases hr
  · intro h
    simpa [checkSlots] using checkSlots_append h [] []

/-! ### Calls, slot by slot -/

/-- Calls are a keyword and tokens that fit into the slots of its function. -/
theorem exists_isCall_iff {ts : List Token} (hl : ∀ t ∈ ts, t.IsLexeme) :
    (∃ call, IsCall render ts call) ↔ ∃ t k us, ts = t :: us ∧ t.kind = .keyword k ∧
      List.Forall₂ (Slot.Fits render) (slots k) us := by
  simp only [← readCall_eq_ok_iff hl, readCall_eq_ok_iff_arguments, ← checkSlots_eq_ok_nil_iff,
    ← readArguments_eq_checkSlots render]
  constructor
  · rintro ⟨call, t, us, k, rfl, hk, hargs⟩
    exact ⟨t, k, us, rfl, hk, by rw [hargs]; rfl⟩
  · rintro ⟨t, k, us, rfl, hk, hargs⟩
    cases hread : readArguments render k us with
    | error e => simp [hread, Except.map] at hargs
    | ok x =>
      obtain ⟨call, r⟩ := x
      obtain rfl : r = [] := by simpa [hread, Except.map] using hargs
      exact ⟨call, t, us, k, rfl, hk, hread⟩

/-- There is a token for each slot. -/
lemma exists_fits (render : List Char → List Char) {k : Keyword} {s : Slot} (hs : s ∈ slots k) :
    ∃ t : Token, t.IsLexeme ∧ s.Fits render t := by
  have hone : Numeral ['1'] 1 := .unsigned (by decide)
  cases s with
  | mark kind =>
    have hkind : kind = .oparen ∨ kind = .comma ∨ kind = .cparen := by
      cases k <;> simpa [slots] using hs
    rcases hkind with rfl | rfl | rfl
    · exact ⟨.oparen, ⟨rfl, nofun⟩, rfl⟩
    · exact ⟨.comma, ⟨rfl, nofun⟩, rfl⟩
    · exact ⟨.cparen, ⟨rfl, nofun⟩, rfl⟩
  | name =>
    have hid : IsIdentifier ['a'] := ⟨'a', [], rfl, by decide, by simp⟩
    refine ⟨⟨.identifier, ['a']⟩, ⟨hid, fun _ k => ?_⟩, _, .identifier _⟩
    cases k <;> decide
  | value k =>  -- the number 1 will do, for `div` too
    refine ⟨⟨.integer, ['1']⟩, ⟨⟨1, hone⟩, nofun⟩, Slot.fits_value_integer.2 ⟨1, ?_, by simp⟩⟩
    exact readInt64_eq_some_iff.2 ⟨hone, by decide, by decide⟩

end Adventure.Action
