import Adventure.Game.Lint
import Adventure.Proofs.Game.Map
import Adventure.Proofs.Repeats

/-!
# Which lints there are

The lints of game data are the mistakes at its places, one for each place with a mistake, in the
order of the places.

* `Data.mem_findings_iff`, `Data.pairwise_findings` : the places with a mistake, in order.
* `Data.filter_lints`, `Data.lints_eq_nil_iff` : the lints about the items of a list, and data
  without any lint.
* `Data.lints_report_findings` : the lints, how many of them are about items, and when there are
  none.
-/

namespace Adventure.Game

/-! ### Places -/

namespace Direction

/-- How many directions a room lists in front of this one. -/
def rank (d : Direction) : Nat := all.idxOf d

lemma mem_all (d : Direction) : d ∈ all := by
  cases d <;> decide

lemma pairwise_all : all.Pairwise fun d d' => d.rank < d'.rank := by
  decide

end Direction

/-- A place in a room. -/
inductive Place where
  | exit (direction : Direction)
  | item (kind : ItemKind) (index : Nat)
  deriving DecidableEq, Repr

/-- A room lists its exits by direction, then the tangible items, and the intangible ones last. -/
inductive Place.Before : Place → Place → Prop
  | exits {d d' : Direction} (h : d.rank < d'.rank) : Before (.exit d) (.exit d')
  | exit_item {d : Direction} {kind : ItemKind} {i : Nat} : Before (.exit d) (.item kind i)
  | kinds {i j : Nat} : Before (.item .tangible i) (.item .intangible j)
  | items {kind : ItemKind} {i j : Nat} (h : i < j) : Before (.item kind i) (.item kind j)

/-- A place in game data. -/
inductive Site where
  /-- All rooms together. -/
  | game
  | room (name : String) (place : Place)
  deriving DecidableEq, Repr

/-- The rooms follow each other in ascending order of their names. -/
inductive Site.Before : Site → Site → Prop
  | game {name : String} {place : Place} : Before .game (.room name place)
  | rooms {name name' : String} {place place' : Place} (h : name < name') :
      Before (.room name place) (.room name' place')
  | room {name : String} {place place' : Place} (h : place.Before place') :
      Before (.room name place) (.room name place')

/-- The lint is about an item of the kind in the room. -/
def Lint.isRepeatedItem (room : String) (kind : ItemKind) : Lint → Bool
  | .repeatedItem room' kind' _ => room' = room && kind' = kind
  | _                           => false

/-! ### Mistakes -/

namespace Data

variable {d : Data} {name : String} {room : Room}

/-- What is wrong at a place of a room: an exit is blank or leads nowhere, or an item has the name of
an earlier one in its list. -/
inductive FindsIn (d : Data) (name : String) (room : Room) : Place → Lint → Prop
  | blankExit {direction : Direction} {target : String}
      (hexit : room.exits.get direction = some target)
      (hblank : Text.isBlank target.toList = true) :
      FindsIn d name room (.exit direction) (.blankExit name direction)
  | missingRoom {direction : Direction} {target : String}
      (hexit : room.exits.get direction = some target)
      (hblank : Text.isBlank target.toList = false) (hmissing : target ∉ d.names) :
      FindsIn d name room (.exit direction) (.missingRoom name direction target)
  | repeatedItem {kind : ItemKind} {index : Nat} {item : Item}
      (hitem : (room.items.get kind)[index]? = some item)
      (hearlier : item.name ∈ ((room.items.get kind).take index).map Item.name) :
      FindsIn d name room (.item kind index) (.repeatedItem name kind item.name)

/-- What is wrong at a place of game data. -/
inductive Finds (d : Data) : Site → Lint → Prop
  | missingOrigin (h : originRoom ∉ d.names) : Finds d .game .missingOrigin
  | room {name : String} {room : Room} {place : Place} {lint : Lint}
      (hroom : d.find? name = some room) (h : d.FindsIn name room place lint) :
      Finds d (.room name place) lint

/-- There is a room to start in, every exit leads to a room, and no two items of a list share their
name. -/
structure IsConsistent (d : Data) : Prop where
  origin : originRoom ∈ d.names
  exits : ∀ name room, d.find? name = some room → ∀ direction target,
    room.exits.get direction = some target →
      Text.isBlank target.toList = false ∧ target ∈ d.names
  items : ∀ name room, d.find? name = some room → ∀ kind,
    ((room.items.get kind).map Item.name).Nodup

/-! ### Items that repeat a name -/

/-- An item at the end of a list is repeated if its name occurs in front of it. -/
lemma repeatedNames_append_singleton (seen : List String) (items : List Item) (item : Item) :
    repeatedNames seen (items ++ [item]) = repeatedNames seen items ++
      if item.name ∈ seen ∨ item.name ∈ items.map Item.name then [item.name] else [] := by
  induction items generalizing seen with
  | nil => by_cases h : item.name ∈ seen <;> simp [repeatedNames, h]
  | cons i items ih =>
    rw [List.cons_append, repeatedNames, repeatedNames, ih, ih, List.map_cons]
    simp only [List.contains_iff_mem, List.mem_cons]
    by_cases hi : i.name ∈ seen
    · by_cases h : item.name = i.name <;> simp [hi, h]
    · by_cases h : item.name = i.name <;> simp [hi, h]

/-- The names that are found to be repeated are those of the items that repeat a name. -/
lemma repeatedNames_eq (items : List Item) :
    repeatedNames [] items = (repeats Item.name items).map fun p => p.1.name := by
  induction items using List.reverseRecOn with
  | nil => rfl
  | append_singleton items item ih =>
    rw [repeatedNames_append_singleton, repeats_append_singleton, ih, List.map_append]
    by_cases h : item.name ∈ items.map Item.name <;> simp [h]

/-! ### The mistakes of a room -/

/-- The lints about the exits of a room, with their places. -/
def exitFindings (d : Data) (name : String) (room : Room) : List (Place × Lint) :=
  room.exits.toList.filterMap fun e => (d.lintExit name e.1 e.2).map (Place.exit e.1, ·)

/-- The lints about the items of a kind, with their places. -/
def itemFindings (name : String) (room : Room) (kind : ItemKind) : List (Place × Lint) :=
  (repeats Item.name (room.items.get kind)).map fun p =>
    (.item kind p.2, .repeatedItem name kind p.1.name)

/-- The lints about a room, with their places. -/
def findingsIn (d : Data) (name : String) (room : Room) : List (Place × Lint) :=
  d.exitFindings name room ++ itemFindings name room .tangible ++
    itemFindings name room .intangible

lemma map_snd_itemFindings (name : String) (room : Room) (kind : ItemKind) :
    (itemFindings name room kind).map Prod.snd = lintItems name kind room.items := by
  rw [itemFindings, lintItems, repeatedNames_eq, List.map_map, List.map_map]
  rfl

lemma map_snd_findingsIn (d : Data) (name : String) (room : Room) :
    (d.findingsIn name room).map Prod.snd = d.lintRoom name room := by
  rw [findingsIn, List.map_append, List.map_append, map_snd_itemFindings, map_snd_itemFindings,
    exitFindings, List.map_filterMap]
  simp only [Option.map_map, lintRoom]
  congr 2
  apply List.filterMap_congr
  intro e _
  exact Option.map_id' ..

/-- There is one lint at most about an exit: it is blank, or leads to a room that does not exist. -/
lemma lintExit_eq_some_iff {direction : Direction} {target : String} {lint : Lint} :
    d.lintExit name direction target = some lint ↔
      (Text.isBlank target.toList = true ∧ lint = .blankExit name direction) ∨
      (Text.isBlank target.toList = false ∧ target ∉ d.names ∧
        lint = .missingRoom name direction target) := by
  rw [← contains_iff]
  unfold lintExit
  split_ifs with hblank hcontains
  · simp [hblank, @eq_comm _ lint]
  · simp [hblank, hcontains]
  · simp [hblank, hcontains, @eq_comm _ lint]

lemma mem_toList_iff {exits : Exits} {e : Direction × String} :
    e ∈ exits.toList ↔ exits.get e.1 = some e.2 := by
  obtain ⟨direction, target⟩ := e
  simp [Exits.toList, Direction.mem_all]

lemma mem_exitFindings_iff {f : Place × Lint} :
    f ∈ d.exitFindings name room ↔
      ∃ direction target, room.exits.get direction = some target ∧ f.1 = .exit direction ∧
        d.lintExit name direction target = some f.2 := by
  obtain ⟨place, lint⟩ := f
  simp only [exitFindings, List.mem_filterMap, mem_toList_iff, Option.map_eq_some_iff, Prod.exists,
    Prod.mk.injEq]
  constructor
  · rintro ⟨direction, target, hexit, _, hlint, rfl, rfl⟩
    exact ⟨direction, target, hexit, rfl, hlint⟩
  · rintro ⟨direction, target, hexit, rfl, hlint⟩
    exact ⟨direction, target, hexit, lint, hlint, rfl, rfl⟩

/-- A repeated item is found at the index of the later one of the two. -/
lemma mem_itemFindings_iff {kind : ItemKind} {f : Place × Lint} :
    f ∈ itemFindings name room kind ↔
      ∃ index item, (room.items.get kind)[index]? = some item ∧
        item.name ∈ ((room.items.get kind).take index).map Item.name ∧
        f = (.item kind index, .repeatedItem name kind item.name) := by
  simp only [itemFindings, List.mem_map, mem_repeats_iff, Prod.exists]
  constructor
  · rintro ⟨item, index, ⟨hitem, hearlier⟩, rfl⟩
    exact ⟨index, item, hitem, hearlier, rfl⟩
  · rintro ⟨index, item, hitem, hearlier, rfl⟩
    exact ⟨item, index, ⟨hitem, hearlier⟩, rfl⟩

/-- The mistakes of a room are found, and nothing else is. -/
lemma mem_findingsIn_iff {f : Place × Lint} :
    f ∈ d.findingsIn name room ↔ d.FindsIn name room f.1 f.2 := by
  simp only [findingsIn, List.mem_append, mem_exitFindings_iff, mem_itemFindings_iff,
    lintExit_eq_some_iff]
  obtain ⟨place, lint⟩ := f
  constructor
  · rintro ((⟨direction, target, hexit, rfl, ⟨hblank, rfl⟩ | ⟨hblank, hmissing, rfl⟩⟩ |
      ⟨index, item, hitem, hearlier, hf⟩) | ⟨index, item, hitem, hearlier, hf⟩)
    · exact .blankExit hexit hblank
    · exact .missingRoom hexit hblank hmissing
    · obtain ⟨rfl, rfl⟩ := Prod.mk.inj hf
      exact .repeatedItem hitem hearlier
    · obtain ⟨rfl, rfl⟩ := Prod.mk.inj hf
      exact .repeatedItem hitem hearlier
  · rintro (⟨hexit, hblank⟩ | ⟨hexit, hblank, hmissing⟩ | @⟨kind, index, item, hitem, hearlier⟩)
    · exact .inl (.inl ⟨_, _, hexit, rfl, .inl ⟨hblank, rfl⟩⟩)
    · exact .inl (.inl ⟨_, _, hexit, rfl, .inr ⟨hblank, hmissing, rfl⟩⟩)
    · cases kind with
      | tangible => exact .inl (.inr ⟨index, item, hitem, hearlier, rfl⟩)
      | intangible => exact .inr ⟨index, item, hitem, hearlier, rfl⟩

lemma pairwise_exitFindings (d : Data) (name : String) (room : Room) :
    (d.exitFindings name room).Pairwise fun f g => f.1.Before g.1 := by
  unfold exitFindings Exits.toList
  rw [List.pairwise_filterMap, List.pairwise_filterMap]
  apply Direction.pairwise_all.imp
  intro direction direction' hrank e he e' he' f hf g hg
  obtain ⟨_, -, rfl⟩ := Option.map_eq_some_iff.1 he
  obtain ⟨_, -, rfl⟩ := Option.map_eq_some_iff.1 he'
  obtain ⟨_, -, rfl⟩ := Option.map_eq_some_iff.1 hf
  obtain ⟨_, -, rfl⟩ := Option.map_eq_some_iff.1 hg
  exact .exits hrank

lemma pairwise_itemFindings (name : String) (room : Room) (kind : ItemKind) :
    (itemFindings name room kind).Pairwise fun f g => f.1.Before g.1 := by
  rw [itemFindings, List.pairwise_map]
  apply (pairwise_repeats Item.name (room.items.get kind)).imp
  intro p q hlt
  exact .items hlt

/-- The findings about a room come in the order of its places. -/
lemma pairwise_findingsIn (d : Data) (name : String) (room : Room) :
    (d.findingsIn name room).Pairwise fun f g => f.1.Before g.1 := by
  rw [findingsIn, List.append_assoc, List.pairwise_append, List.pairwise_append]
  refine ⟨pairwise_exitFindings d name room, ⟨pairwise_itemFindings name room _,
    pairwise_itemFindings name room _, ?_⟩, ?_⟩
  · intro f hf g hg
    obtain ⟨_, _, -, -, rfl⟩ := mem_itemFindings_iff.1 hf
    obtain ⟨_, _, -, -, rfl⟩ := mem_itemFindings_iff.1 hg
    exact .kinds
  · intro f hf g hg
    obtain ⟨direction, _, -, hplace, -⟩ := mem_exitFindings_iff.1 hf
    rw [hplace]
    rcases List.mem_append.1 hg with hg | hg
    · obtain ⟨_, _, -, -, rfl⟩ := mem_itemFindings_iff.1 hg
      exact .exit_item
    · obtain ⟨_, _, -, -, rfl⟩ := mem_itemFindings_iff.1 hg
      exact .exit_item

/-! ### The mistakes of game data -/

/-- The lints, with their places. -/
def findings (d : Data) : List (Site × Lint) :=
  (if d.contains originRoom then [] else [(.game, .missingOrigin)]) ++
    d.rooms.flatMap fun r => (d.findingsIn r.1 r.2).map fun f => (.room r.1 f.1, f.2)

lemma map_snd_findings (d : Data) : d.findings.map Prod.snd = d.lints := by
  unfold findings lints
  rw [List.map_append, List.map_flatMap]
  congr 1
  · split_ifs <;> rfl
  · apply List.flatMap_congr
    rintro ⟨name, room⟩ _
    dsimp only
    rw [List.map_map, ← map_snd_findingsIn]
    rfl

/-- The mistakes of game data are found, and nothing else is. -/
theorem mem_findings_iff {f : Site × Lint} : f ∈ d.findings ↔ d.Finds f.1 f.2 := by
  obtain ⟨site, lint⟩ := f
  simp only [findings, List.mem_append, List.mem_flatMap, List.mem_map, mem_rooms_iff,
    mem_findingsIn_iff]
  constructor
  · rintro (h | ⟨r, hroom, ⟨place, _⟩, hfinds, hf⟩)
    · split_ifs at h with hcontains
      · cases h
      · obtain ⟨rfl, rfl⟩ := Prod.mk.inj (List.mem_singleton.1 h)
        exact .missingOrigin (mt contains_iff.2 hcontains)
    · obtain ⟨rfl, rfl⟩ := Prod.mk.inj hf
      exact .room hroom hfinds
  · rintro (h | ⟨hroom, hfinds⟩)
    · refine .inl ?_
      rw [if_neg (mt contains_iff.1 h)]
      exact List.mem_singleton_self _
    · exact .inr ⟨(_, _), hroom, (_, _), hfinds, rfl⟩

/-- The places of the mistakes are in order. -/
theorem pairwise_findings (d : Data) : d.findings.Pairwise fun f g => f.1.Before g.1 := by
  have hrooms := List.pairwise_map.1 d.sorted
  rw [findings, List.pairwise_append, List.pairwise_flatMap]
  refine ⟨by split_ifs <;> simp, ⟨?_, ?_⟩, ?_⟩
  · -- Within a room the places come in order.
    intro r _
    rw [List.pairwise_map]
    exact (pairwise_findingsIn d r.1 r.2).imp fun h => .room h
  · -- The rooms come in ascending order.
    apply hrooms.imp
    intro r r' hlt f hf g hg
    obtain ⟨_, -, rfl⟩ := List.mem_map.1 hf
    obtain ⟨_, -, rfl⟩ := List.mem_map.1 hg
    exact .rooms hlt
  · -- A missing room to start in is reported before all rooms.
    intro f hf g hg
    obtain ⟨r, -, hg⟩ := List.mem_flatMap.1 hg
    obtain ⟨_, -, rfl⟩ := List.mem_map.1 hg
    split_ifs at hf
    · cases hf
    · obtain rfl := List.mem_singleton.1 hf
      exact .game

/-! ### How many lints there are -/

lemma filter_lintItems (name' name : String) (items : Items) (kind' kind : ItemKind) :
    (lintItems name' kind' items).filter (·.isRepeatedItem name kind) =
      if name' = name ∧ kind' = kind then lintItems name' kind' items else [] := by
  unfold lintItems
  rw [List.filter_map]
  split_ifs with h
  · simp [Function.comp_def, Lint.isRepeatedItem, h]
  · have hfalse : ((·.isRepeatedItem name kind) ∘ Lint.repeatedItem name' kind') = fun _ => false := by
      funext item
      simpa [Lint.isRepeatedItem] using h
    rw [hfalse, List.filter_false, List.map_nil]

/-- Of the lints about a room, those about repeated items of a kind are the lints about this list.
-/
lemma filter_lintRoom (d : Data) (name' name : String) (room : Room) (kind : ItemKind) :
    (d.lintRoom name' room).filter (·.isRepeatedItem name kind) =
      if name' = name then lintItems name' kind room.items else [] := by
  have hexits : (room.exits.toList.filterMap fun e => d.lintExit name' e.1 e.2).filter
      (·.isRepeatedItem name kind) = [] := by
    rw [List.filter_eq_nil_iff]
    intro lint hlint
    obtain ⟨e, -, he⟩ := List.mem_filterMap.1 hlint
    rcases lintExit_eq_some_iff.1 he with ⟨-, rfl⟩ | ⟨-, -, rfl⟩ <;> simp [Lint.isRepeatedItem]
  rw [lintRoom, List.filter_append, List.filter_append, hexits, filter_lintItems, filter_lintItems]
  by_cases h : name' = name <;> cases kind <;> simp [h]

/-- The lints about the items of a kind in a room are those of its list. -/
lemma filter_lints (hroom : d.find? name = some room) (kind : ItemKind) :
    d.lints.filter (·.isRepeatedItem name kind) = lintItems name kind room.items := by
  have horigin : (if d.contains originRoom then [] else [Lint.missingOrigin]).filter
      (·.isRepeatedItem name kind) = [] := by
    split_ifs <;> rfl
  rw [lints, List.filter_append, horigin, List.nil_append, List.filter_flatMap,
    flatMap_rooms_eq hroom]
  · simp [filter_lintRoom]
  · intro r hne
    simp [filter_lintRoom, hne]

/-- There are no lints exactly about a consistent game. -/
lemma lints_eq_nil_iff : d.lints = [] ↔ d.IsConsistent := by
  rw [← map_snd_findings, List.map_eq_nil_iff, List.eq_nil_iff_forall_not_mem]
  simp only [mem_findings_iff, Prod.forall]
  constructor
  · intro h
    refine ⟨?_, ?_, ?_⟩
    · by_contra horigin
      exact h _ _ (.missingOrigin horigin)
    · intro name room hroom direction target hexit
      have hblank : Text.isBlank target.toList = false := by
        by_contra hblank
        exact h _ _ (.room hroom (.blankExit hexit (by simpa using hblank)))
      refine ⟨hblank, ?_⟩
      by_contra hmissing
      exact h _ _ (.room hroom (.missingRoom hexit hblank hmissing))
    · intro name room hroom kind
      rw [← repeats_eq_nil_iff, List.eq_nil_iff_forall_not_mem]
      intro p hp
      obtain ⟨hitem, hearlier⟩ := mem_repeats_iff.1 hp
      exact h _ _ (.room hroom (.repeatedItem hitem hearlier))
  · rintro h _ _ (horigin | @⟨name, room, _, _, hroom, hfinds⟩)
    · exact horigin h.origin
    · -- Each finding about a room goes against a condition on its exits or on its items.
      cases hfinds with
      | blankExit hexit hblank =>
        simp [(h.exits _ _ hroom _ _ hexit).1] at hblank
      | missingRoom hexit _ hmissing => exact hmissing (h.exits _ _ hroom _ _ hexit).2
      | @repeatedItem kind index item hitem hearlier =>
        have hnil := repeats_eq_nil_iff.2 (h.items _ _ hroom kind)
        have hmem : (item, index) ∈ repeats Item.name (room.items.get kind) :=
          mem_repeats_iff.2 ⟨hitem, hearlier⟩
        simp [hnil] at hmem

/-- Only a missing room to start in is reported as one. -/
lemma missingOrigin_mem_lints_iff : .missingOrigin ∈ d.lints ↔ originRoom ∉ d.names := by
  rw [← map_snd_findings, List.mem_map]
  constructor
  · rintro ⟨⟨site, lint⟩, hf, rfl⟩
    rcases mem_findings_iff.1 hf with horigin | @⟨_, _, _, _, _, hfinds⟩
    · exact horigin
    · cases hfinds
  · intro horigin
    exact ⟨(_, _), mem_findings_iff.2 (.missingOrigin horigin), rfl⟩

/-- The lints are the mistakes at the places of game data, one for each place with a mistake, in the
order of the places. Of the items of a list, all but one for each name get a lint. There is no lint
exactly if the data are consistent. -/
theorem lints_report_findings (d : Data) :
    (∃ fs : List (Site × Lint), fs.map Prod.snd = d.lints ∧
      fs.Pairwise (fun f g => f.1.Before g.1) ∧ ∀ f, f ∈ fs ↔ d.Finds f.1 f.2) ∧
    (∀ name room, d.find? name = some room → ∀ kind,
      (d.lints.filter (·.isRepeatedItem name kind)).length +
        ((room.items.get kind).map Item.name).toFinset.card = (room.items.get kind).length) ∧
    (d.lints = [] ↔ d.IsConsistent) := by
  refine ⟨⟨d.findings, map_snd_findings d, pairwise_findings d, fun f => mem_findings_iff⟩, ?_,
    lints_eq_nil_iff⟩
  intro name room hroom kind
  rw [filter_lints hroom, lintItems, repeatedNames_eq, List.length_map, List.length_map]
  exact length_repeats_add_card Item.name (room.items.get kind)

/-- A hall with three coins, one of them elsewhere, an exit to nowhere and a blank one. -/
theorem lints_report_findings_hall :
    let coin : Item := { name := "coin" }
    let hall : Room := {
      exits := { north := some "attic", down := some " " }, description := "x"
      items := { tangible := [coin, coin], intangible := [coin] } }
    let d := ofList [("hall", hall)]
    d.find? "hall" = some hall ∧ (d.lints.filter (·.isRepeatedItem "hall" .tangible)).length = 1 ∧
      ¬ d.IsConsistent := by
  intro coin hall d
  have hhall : d.find? "hall" = some hall := by decide
  have hlints : d.lints = [.missingOrigin, .missingRoom "hall" .north "attic",
      .blankExit "hall" .down, .repeatedItem "hall" .tangible "coin"] := by
    decide
  obtain ⟨-, hcount, hconsistent⟩ := lints_report_findings d
  have htangible := hcount "hall" hall hhall .tangible
  have hcard : ((hall.items.get .tangible).map Item.name).toFinset.card = 1 := by decide
  refine ⟨hhall, ?_, ?_⟩
  · rw [hcard] at htangible
    exact Nat.succ.inj htangible
  · rw [← hconsistent, hlints]
    simp

end Data

end Adventure.Game
