import Adventure.Game.Record

/-!
# The map of rooms

Game data is a list of named rooms in strictly ascending order of the names, so that no name occurs
twice.

* `Data.find?_insert` : after an insertion the name leads to the new room, other names are untouched.
-/

namespace Adventure.Game

/-- Named rooms in strictly ascending order of the names. -/
@[ext]
structure Data where
  rooms : List (String × Room)
  sorted : (rooms.map Prod.fst).Pairwise (· < ·)

namespace Data

def empty : Data := ⟨[], .nil⟩

instance : Inhabited Data := ⟨empty⟩

def find? (d : Data) (name : String) : Option Room :=
  d.rooms.lookup name

def contains (d : Data) (name : String) : Bool :=
  d.rooms.any fun r => r.1 == name

def names (d : Data) : List String :=
  d.rooms.map Prod.fst

/-- Puts a room in its place in a sorted list; a room of the same name gives way. -/
def insertSorted (name : String) (room : Room) : List (String × Room) → List (String × Room)
  | []      => [(name, room)]
  | r :: rs =>
    if name < r.1 then (name, room) :: r :: rs
    else if name = r.1 then (name, room) :: rs
    else r :: insertSorted name room rs

theorem mem_insertSorted {name : String} {room : Room} {rs : List (String × Room)}
    {x : String × Room} (h : x ∈ insertSorted name room rs) : x = (name, room) ∨ x ∈ rs := by
  induction rs with
  | nil => simpa [insertSorted] using h
  | cons r rs ih =>
    unfold insertSorted at h
    split at h
    · simpa using h
    · split at h
      · rcases List.mem_cons.1 h with rfl | h
        · exact .inl rfl
        · exact .inr (List.mem_cons_of_mem _ h)
      · rcases List.mem_cons.1 h with rfl | h
        · simp
        · rcases ih h with h | h
          · exact .inl h
          · exact .inr (List.mem_cons_of_mem _ h)

/-- An insertion keeps the names in strictly ascending order, since a room of the same name gives
way. -/
theorem insertSorted_sorted (name : String) (room : Room) {rs : List (String × Room)}
    (h : (rs.map Prod.fst).Pairwise (· < ·)) :
    ((insertSorted name room rs).map Prod.fst).Pairwise (· < ·) := by
  induction rs with
  | nil => simp [insertSorted]
  | cons r rs ih =>
    simp only [List.map_cons, List.pairwise_cons] at h
    unfold insertSorted
    split
    · next hlt =>
      simp only [List.map_cons, List.pairwise_cons]
      refine ⟨fun x hx => ?_, h⟩
      rcases List.mem_cons.1 hx with rfl | hx
      · exact hlt
      · exact String.lt_trans hlt (h.1 x hx)
    · next hlt =>
      split
      · next heq =>
        simp only [List.map_cons, List.pairwise_cons]
        exact ⟨heq ▸ h.1, h.2⟩
      · next hne =>
        simp only [List.map_cons, List.pairwise_cons]
        refine ⟨fun x hx => ?_, ih h.2⟩
        obtain ⟨y, hy, rfl⟩ := List.mem_map.1 hx
        rcases mem_insertSorted hy with rfl | hy
        · -- The order is total: what is neither greater nor equal is smaller.
          rcases Decidable.em (r.1 < name) with h' | h'
          · exact h'
          · exact absurd (String.le_antisymm (String.not_lt.1 h') (String.not_lt.1 hlt)) hne
        · exact h.1 _ (List.mem_map_of_mem hy)

/-- Adds a room; a room of the same name gives way. -/
def insert (d : Data) (name : String) (room : Room) : Data :=
  ⟨insertSorted name room d.rooms, insertSorted_sorted name room d.sorted⟩

theorem lookup_cons_ite (a : String) (b : Room) (rs : List (String × Room)) (x : String) :
    List.lookup x ((a, b) :: rs) = if x = a then some b else rs.lookup x := by
  by_cases h : x = a
  · rw [h, List.lookup_cons_self, if_pos rfl]
  · have : (x == a) = false := by simpa using h
    rw [List.lookup_cons, this, if_neg h]

/-- An insertion changes what is found under the inserted name, and under no other. -/
theorem lookup_insertSorted (name : String) (room : Room) (rs : List (String × Room))
    (x : String) :
    (insertSorted name room rs).lookup x = if x = name then some room else rs.lookup x := by
  induction rs with
  | nil => rw [insertSorted, lookup_cons_ite]
  | cons r rs ih =>
    obtain ⟨a, b⟩ := r
    unfold insertSorted
    split
    · rw [lookup_cons_ite]
    · split
      · next heq =>
        cases heq
        simp only [lookup_cons_ite]
        split <;> rfl
      · next hne =>
        simp only [lookup_cons_ite, ih]
        split
        · next h => simp [h, Ne.symm hne]
        · rfl

theorem find?_insert (d : Data) (name : String) (room : Room) (x : String) :
    (d.insert name room).find? x = if x = name then some room else d.find? x :=
  lookup_insertSorted name room d.rooms x

/-- The rooms of a list; of two rooms of one name the later one is kept. -/
def ofList (rooms : List (String × Room)) : Data :=
  rooms.foldl (fun d r => d.insert r.1 r.2) empty

end Data

end Adventure.Game
