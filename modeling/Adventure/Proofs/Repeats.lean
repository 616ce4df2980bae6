import Mathlib.Data.Finset.Card
import Mathlib.Data.List.Induction

/-!
# Elements that repeat a key

The elements of a list whose key an earlier element has. They are what is left over when one element
is kept for each key.

* `repeats_append_singleton` : how the repeats grow with the list.
* `length_repeats_add_card` : how many there are.
* `repeats_eq_nil_iff` : there are none exactly if the keys are distinct.
* `mem_iff_lookup_eq` : then keys lead to the entries of a list.
-/

namespace Adventure

variable {α β : Type} [DecidableEq β] {key : α → β}

/-- The elements whose key an earlier element has, with their index. -/
def repeats (key : α → β) (as : List α) : List (α × Nat) :=
  as.zipIdx.filter fun p => key p.1 ∈ (as.take p.2).map key

lemma mem_repeats_iff {as : List α} {p : α × Nat} :
    p ∈ repeats key as ↔ as[p.2]? = some p.1 ∧ key p.1 ∈ (as.take p.2).map key := by
  rw [repeats, List.mem_filter, List.mem_zipIdx_iff_getElem?, decide_eq_true_eq]

lemma pairwise_repeats (key : α → β) (as : List α) :
    (repeats key as).Pairwise fun p q => p.2 < q.2 := by
  apply List.Pairwise.filter
  rw [← List.pairwise_map, List.zipIdx_map_snd]
  exact List.pairwise_lt_range'

/-- An element at the end is repeated if its key occurs in front of it. -/
lemma repeats_append_singleton (key : α → β) (as : List α) (a : α) :
    repeats key (as ++ [a]) =
      repeats key as ++ if key a ∈ as.map key then [(a, as.length)] else [] := by
  unfold repeats
  rw [List.zipIdx_append, List.filter_append]
  congr 1
  · apply List.filter_congr
    intro p hp
    -- The elements in front of the last one have the same elements in front of them as before.
    have hlt := List.snd_lt_of_mem_zipIdx hp
    rw [List.take_append_of_le_length (by omega)]
  · rw [List.zipIdx_singleton, Nat.zero_add, List.filter_cons, List.take_left, List.filter_nil]
    by_cases h : key a ∈ as.map key
    · simp only [h, decide_true, if_true]
    · simp only [h, decide_false, if_false]
      rfl

/-- One element for each key is no repeat. -/
theorem length_repeats_add_card (key : α → β) (as : List α) :
    (repeats key as).length + (as.map key).toFinset.card = as.length := by
  induction as using List.reverseRecOn with
  | nil => rfl
  | append_singleton as a ih =>
    rw [repeats_append_singleton, List.length_append, List.length_append, List.length_singleton,
      List.map_append, List.toFinset_append, Finset.union_comm]
    by_cases h : key a ∈ as.map key
    · have hcard : insert (key a) (as.map key).toFinset = (as.map key).toFinset :=
        Finset.insert_eq_self.2 (List.mem_toFinset.2 h)
      simp [h, ← ih, hcard]
      omega
    · have hcard := Finset.card_insert_of_notMem (mt List.mem_toFinset.1 h)
      simp [h, ← ih, hcard]
      omega

theorem repeats_eq_nil_iff {as : List α} : repeats key as = [] ↔ (as.map key).Nodup := by
  induction as using List.reverseRecOn with
  | nil => simp [repeats]
  | append_singleton as a ih =>
    rw [repeats_append_singleton, List.append_eq_nil_iff, ih, List.map_append, List.map_singleton,
      ← List.concat_eq_append, List.nodup_concat]
    by_cases h : key a ∈ as.map key <;> simp [h]

/-- Where no key is repeated, the entries are those to which keys lead. -/
lemma mem_iff_lookup_eq {γ : Type} {es : List (String × γ)} (h : (es.map Prod.fst).Nodup)
    {e : String × γ} : e ∈ es ↔ es.lookup e.1 = some e.2 := by
  obtain ⟨name, c⟩ := e
  induction es with
  | nil => simp
  | cons e es ih =>
    obtain ⟨name', c'⟩ := e
    rw [List.map_cons, List.nodup_cons] at h
    rw [List.mem_cons, ih h.2, List.lookup_cons]
    by_cases hname : name = name'
    · subst hname
      have hnone : es.lookup name = none := by
        rw [List.lookup_eq_none_iff]
        intro e he
        have hne : name ≠ e.1 := fun heq => h.1 (List.mem_map.2 ⟨e, he, heq.symm⟩)
        simpa using hne
      simp [hnone, eq_comm]
    · simp [hname, beq_eq_false_iff_ne.2 hname]

end Adventure
