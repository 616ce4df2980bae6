import Adventure.Game.Json
import Adventure.Proofs.Json.Record

/-!
# Positive amounts

An item is there without limit, or a positive number of times that fits into 64 bits. The reader of
game data admits no other amounts.

* `Data.hasPositiveAmounts_of_ofText` : the amounts that are read from a text are positive.
-/

namespace Adventure.Game

open Json Number

/-! ### Amounts -/

/-- A count is positive and a number of 64 bits. -/
def Amount.IsPositive : Amount → Prop
  | .count n   => 0 < n ∧ (n : Int) ≤ maxUInt64
  | .unlimited => True

/-- A count is positive and a number of 64 bits with a sign. -/
def Amount.IsPositiveInt64 : Amount → Prop
  | .count n   => 0 < n ∧ (n : Int) ≤ maxInt64
  | .unlimited => True

lemma Amount.isPositiveInt64_default : (default : Amount).IsPositiveInt64 := by
  constructor <;> decide

lemma Amount.IsPositiveInt64.isPositive {a : Amount} (h : a.IsPositiveInt64) : a.IsPositive := by
  cases a with
  | count n => exact ⟨h.1, Int.le_trans h.2 (by decide)⟩
  | unlimited => trivial

lemma Amount.isPositive_default : (default : Amount).IsPositive :=
  isPositiveInt64_default.isPositive

/-- All amounts of the items are positive. -/
def Items.HasPositiveAmounts (i : Items) : Prop :=
  ∀ kind, ∀ item ∈ i.get kind, item.amount.IsPositive

/-- All amounts of items in the rooms are positive. -/
def Data.HasPositiveAmounts (d : Data) : Prop :=
  ∀ r ∈ d.rooms, r.2.items.HasPositiveAmounts

lemma Items.hasPositiveAmounts_iff {i : Items} :
    i.HasPositiveAmounts ↔
      (∀ item ∈ i.tangible, item.amount.IsPositive) ∧
        ∀ item ∈ i.intangible, item.amount.IsPositive := by
  constructor
  · intro h
    exact ⟨h .tangible, h .intangible⟩
  · rintro ⟨ht, hi⟩ (_ | _)
    · exact ht
    · exact hi

lemma Data.hasPositiveAmounts_empty : empty.HasPositiveAmounts := by
  simp [HasPositiveAmounts, empty]

lemma Data.HasPositiveAmounts.insert {d : Data} (hd : d.HasPositiveAmounts) (name : String)
    {room : Room} (hroom : room.items.HasPositiveAmounts) :
    (d.insert name room).HasPositiveAmounts := by
  intro r hr
  rcases mem_insertSorted hr with rfl | hr
  · exact hroom
  · exact hd r hr

/-! ### Reading -/

variable {v : Reading}

/-- An amount that is decoded is positive: the decoder refuses zero. -/
lemma Amount.isPositive_of_decode {a : Amount} (hv : v.FitsWords) (h : Amount.decode v = .ok a) :
    a.IsPositive := by
  unfold Amount.decode at h
  split at h
  · next n =>
    split_ifs at h with hn
    obtain rfl := Except.ok.inj h
    have hmax := Reading.fitsWords_number.1 hv n rfl
    constructor <;> omega
  · split_ifs at h
    obtain rfl := Except.ok.inj h
    trivial
  · cases h

lemma Item.isPositive_of_decode {i : Item} (hv : v.FitsWords) (h : Item.shape.decode v = .ok i) :
    i.amount.IsPositive := by
  refine Shape.decode_induction (P := fun i : Item => i.amount.IsPositive)
    Amount.isPositive_default ?_ hv h
  simp only [Item.shape, List.forall_mem_cons]
  refine ⟨?_, ?_, ?_, ?_, ?_, ?_, by simp⟩
  · exact Shape.keeps_field fun i name v hi hv h => hi
  · exact Shape.keeps_field fun i description v hi hv h => hi
  · exact Shape.keeps_field fun i amount v hi hv h => Amount.isPositive_of_decode hv h
  · exact Shape.keeps_field fun i visible v hi hv h => hi
  · exact Shape.keeps_field fun i effect v hi hv h => hi
  · exact Shape.keeps_field fun i usedWith v hi hv h => hi

lemma Item.isPositive_of_list {is : List Item} (hv : v.FitsWords)
    (h : Decoder.list Item.shape.decode v = .ok is) : ∀ i ∈ is, i.amount.IsPositive := by
  intro i hi
  obtain ⟨vs, closed, rfl, u, hu, hdecode⟩ := Decoder.exists_of_mem_list h hi
  exact isPositive_of_decode (Reading.fitsWords_array.1 hv u hu) hdecode

lemma Items.hasPositiveAmounts_of_decode {i : Items} (hv : v.FitsWords)
    (h : Items.shape.decode v = .ok i) : i.HasPositiveAmounts := by
  refine Shape.decode_induction (P := HasPositiveAmounts) ?_ ?_ hv h
  · rintro (_ | _) <;> simp [Items.shape, Items.get]
  · simp only [Items.shape, List.forall_mem_cons]
    refine ⟨?_, ?_, by simp⟩
    · refine Shape.keeps_field fun i tangible v hi hv h => ?_
      exact hasPositiveAmounts_iff.2 ⟨Item.isPositive_of_list hv h, hi .intangible⟩
    · refine Shape.keeps_field fun i intangible v hi hv h => ?_
      exact hasPositiveAmounts_iff.2 ⟨hi .tangible, Item.isPositive_of_list hv h⟩

lemma Room.hasPositiveAmounts_of_decode {r : Room} (hv : v.FitsWords)
    (h : Room.shape.decode v = .ok r) : r.items.HasPositiveAmounts := by
  refine Shape.decode_induction (P := fun r : Room => r.items.HasPositiveAmounts) ?_ ?_ hv h
  · rintro (_ | _) <;> simp [Room.shape, Items.get]
  · simp only [Room.shape, List.forall_mem_append, List.forall_mem_map, List.forall_mem_cons]
    refine ⟨?_, ?_, ?_, by simp⟩
    · intro d _
      exact Shape.keeps_field fun r target v hr hv h => hr
    · exact Shape.keeps_field fun r description v hr hv h => hr
    · exact Shape.keeps_field fun r items v hr hv h => Items.hasPositiveAmounts_of_decode hv h

/-- Rooms that are added to others keep the amounts positive. -/
lemma Data.hasPositiveAmounts_of_addEntries {d d' : Data} {es : List (Option String × Reading)}
    (hes : ∀ e ∈ es, e.2.FitsWords) (hd : d.HasPositiveAmounts) (h : d.addEntries es = .ok d') :
    d'.HasPositiveAmounts := by
  induction es generalizing d with
  | nil =>
    obtain rfl := Except.ok.inj h
    exact hd
  | cons e es ih =>
    obtain ⟨key, v⟩ := e
    obtain ⟨hv, hes⟩ := List.forall_mem_cons.1 hes
    obtain ⟨name, -, h⟩ := bind_eq_ok_iff.1 h
    obtain ⟨room, hroom, h⟩ := bind_eq_ok_iff.1 h
    exact ih hes (hd.insert name (Room.hasPositiveAmounts_of_decode hv hroom)) h

lemma Data.hasPositiveAmounts_of_decode {d : Data} (hv : v.FitsWords) (h : Data.decode v = .ok d) :
    d.HasPositiveAmounts := by
  unfold Data.decode at h
  split at h
  · obtain ⟨d, hadd, h⟩ := bind_eq_ok_iff.1 h
    obtain ⟨-, -, h⟩ := bind_eq_ok_iff.1 h
    obtain rfl := pure_eq_ok_iff.1 h
    exact hasPositiveAmounts_of_addEntries (Reading.fitsWords_object.1 hv)
      hasPositiveAmounts_empty hadd
  · cases h

/-- The amounts that are read from a text are positive. -/
theorem Data.hasPositiveAmounts_of_ofText {text : List Char} {d : Data}
    (h : Data.ofText text = .ok d) : d.HasPositiveAmounts := by
  obtain ⟨d, hd, h⟩ := bind_eq_ok_iff.1 h
  obtain ⟨-, -, h⟩ := bind_eq_ok_iff.1 h
  obtain rfl := pure_eq_ok_iff.1 h
  exact hasPositiveAmounts_of_decode (Reading.fitsWords_ofText text) hd

end Adventure.Game
