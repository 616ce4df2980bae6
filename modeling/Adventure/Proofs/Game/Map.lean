import Adventure.Game.Data
import Adventure.Proofs.Repeats

/-!
# Rooms by name

Game data are told apart by the rooms to which names lead. A list of named rooms makes game data in
which the last room of each name is kept.

* `Data.ext_find?` : game data with the same rooms under the same names are the same.
* `Data.mem_rooms_iff` : the rooms are those to which names lead.
* `Data.find?_ofList` : the last room of a name is kept.
* `Data.find?_ofList_append` : the rooms of a second list take the place of those of the first one.
-/

namespace Adventure.Game.Data

variable {rooms rooms' : List (String × Room)} {name : String}

/-! ### Names -/

lemma mem_names_iff {d : Data} : name ∈ d.names ↔ ∃ room, d.find? name = some room := by
  rw [← Option.isSome_iff_exists, find?, List.lookup_isSome_iff, names, List.mem_map]
  simp only [beq_iff_eq, @eq_comm _ name]

lemma contains_iff {d : Data} : d.contains name = true ↔ name ∈ d.names := by
  simp [contains, names]

/-! ### Game data with the same rooms -/

lemma lookup_eq_none_of_forall_lt (h : ∀ x ∈ rooms.map Prod.fst, name < x) :
    rooms.lookup name = none := by
  rw [List.lookup_eq_none_iff]
  intro r hr
  have hne : name ≠ r.1 := (String.ne_of_lt (h _ (List.mem_map_of_mem hr)))
  simpa using hne

/-- Of two sorted lists with the same look-ups, none starts with a name in front of all names of the
other one. -/
lemma not_lt_of_lookup_eq {a a' : String} {b b' : Room}
    (hs' : (((a', b') :: rooms').map Prod.fst).Pairwise (· < ·))
    (h : ∀ name, ((a, b) :: rooms).lookup name = ((a', b') :: rooms').lookup name) : ¬ a < a' := by
  intro hlt
  have hfront : ∀ x ∈ ((a', b') :: rooms').map Prod.fst, a < x := by
    refine List.forall_mem_cons.2 ⟨hlt, ?_⟩
    intro x hx
    exact String.lt_trans hlt ((List.pairwise_cons.1 hs').1 x hx)
  have hsome := h a
  rw [lookup_eq_none_of_forall_lt hfront, List.lookup_cons_self] at hsome
  cases hsome

/-- Two sorted lists are equal if the same is found in them under every name. -/
lemma eq_of_lookup_eq (hs : (rooms.map Prod.fst).Pairwise (· < ·))
    (hs' : (rooms'.map Prod.fst).Pairwise (· < ·))
    (h : ∀ name, rooms.lookup name = rooms'.lookup name) : rooms = rooms' := by
  induction rooms generalizing rooms' with
  | nil =>
    cases rooms' with
    | nil => rfl
    | cons r' rooms' =>
      have hr' := h r'.1
      rw [List.lookup_cons_self] at hr'
      cases hr'
  | cons r rooms ih =>
    obtain ⟨a, b⟩ := r
    cases rooms' with
    | nil =>
      have hr := h a
      rw [List.lookup_cons_self] at hr
      cases hr
    | cons r' rooms' =>
      obtain ⟨a', b'⟩ := r'
      -- The heads are the same, and no name of the tails is that of the heads.
      obtain rfl : a = a' := String.le_antisymm
        (String.not_lt.1 (not_lt_of_lookup_eq hs fun name => (h name).symm))
        (String.not_lt.1 (not_lt_of_lookup_eq hs' h))
      have hb := h a
      rw [List.lookup_cons_self, List.lookup_cons_self] at hb
      obtain rfl := Option.some.inj hb
      obtain ⟨hlt, hs⟩ := List.pairwise_cons.1 hs
      obtain ⟨hlt', hs'⟩ := List.pairwise_cons.1 hs'
      rw [ih hs hs']
      intro name
      by_cases hname : name = a
      · rw [hname, lookup_eq_none_of_forall_lt hlt, lookup_eq_none_of_forall_lt hlt']
      · have hrest := h name
        rwa [lookup_cons_ite, lookup_cons_ite, if_neg hname, if_neg hname] at hrest

/-- Game data with the same rooms under the same names are the same. -/
theorem ext_find? {d d' : Data} (h : ∀ name, d.find? name = d'.find? name) : d = d' := by
  obtain ⟨rooms, hs⟩ := d
  obtain ⟨rooms', hs'⟩ := d'
  obtain rfl := eq_of_lookup_eq hs hs' h
  rfl

/-- The rooms are those to which names lead. -/
lemma mem_rooms_iff {d : Data} {r : String × Room} : r ∈ d.rooms ↔ d.find? r.1 = some r.2 :=
  mem_iff_lookup_eq (d.sorted.imp String.ne_of_lt)

/-- What only one room has, all rooms together have. -/
lemma flatMap_rooms_eq {α : Type} {d : Data} {room : Room} (h : d.find? name = some room)
    {f : String × Room → List α} (hf : ∀ r, r.1 ≠ name → f r = []) :
    d.rooms.flatMap f = f (name, room) := by
  obtain ⟨rooms, hs⟩ := d
  change rooms.lookup name = some room at h
  show rooms.flatMap f = _
  induction rooms with
  | nil => cases h
  | cons r rooms ih =>
    obtain ⟨a, b⟩ := r
    rw [List.map_cons, List.pairwise_cons] at hs
    rw [lookup_cons_ite] at h
    rw [List.flatMap_cons]
    split_ifs at h with hname
    · -- The names further on are greater, so the room occurs once.
      subst hname
      obtain rfl := Option.some.inj h
      have hnil : rooms.flatMap f = [] := by
        rw [List.flatMap_eq_nil_iff]
        intro r hr
        exact hf r (String.ne_of_lt (hs.1 _ (List.mem_map_of_mem hr))).symm
      rw [hnil, List.append_nil]
    · rw [hf (a, b) (Ne.symm hname), ih hs.2 h, List.nil_append]

/-! ### Game data of a list -/

lemma ofList_append_singleton (r : String × Room) :
    ofList (rooms ++ [r]) = (ofList rooms).insert r.1 r.2 := by
  rw [ofList, List.foldl_append]
  rfl

/-- Every room that is kept is one of the list. -/
lemma mem_of_mem_ofList {r : String × Room} (h : r ∈ (ofList rooms).rooms) : r ∈ rooms := by
  induction rooms using List.reverseRecOn with
  | nil => exact h
  | append_singleton rooms s ih =>
    rw [ofList_append_singleton] at h
    rcases mem_insertSorted h with rfl | h
    · exact List.mem_append_right _ (List.mem_singleton_self _)
    · exact List.mem_append_left _ (ih h)

/-- The last room of a name is kept. -/
theorem find?_ofList (rooms : List (String × Room)) (name : String) :
    (ofList rooms).find? name = ((rooms.filter fun r => r.1 = name).getLast?).map Prod.snd := by
  induction rooms using List.reverseRecOn with
  | nil => rfl
  | append_singleton rooms r ih =>
    rw [ofList_append_singleton, find?_insert, ih, List.filter_append]
    by_cases h : r.1 = name
    · simp [h]
    · simp [h, Ne.symm h]

/-- The rooms of a second list take the place of those of the first one. -/
theorem find?_ofList_append (rooms rooms' : List (String × Room)) (name : String) :
    (ofList (rooms ++ rooms')).find? name =
      ((ofList rooms').find? name).or ((ofList rooms).find? name) := by
  rw [find?_ofList, find?_ofList, find?_ofList, List.filter_append, List.getLast?_append,
    Option.map_or]

lemma mem_names_ofList : name ∈ (ofList rooms).names ↔ name ∈ rooms.map Prod.fst := by
  rw [mem_names_iff, find?_ofList, ← Option.isSome_iff_exists, Option.isSome_map,
    List.getLast?_isSome]
  simp [List.filter_eq_nil_iff]

end Adventure.Game.Data
