import Adventure.Project.Cause
import Adventure.Proofs.RoomFile.Checks

/-!
# The first defect of a room file

Reading a room file fails with the first defect in the order of its checks. The defect tells the
room, the kind and the item, its trace ends with the message of what the check itself finds, and
nothing that is checked later has a part in it.

* `read_eq_error_iff` : reading fails with what the first check finds that finds anything.
* `read_first_defect` : where the defect stands, what it comes from, and that the rest of the file
  does not matter.
-/

namespace Adventure.RoomFile

open Yaml (Value)

variable {render : Render} {room : String} {items : Option Value} {c : Check} {e : Defect}

/-! ### Sites -/

/-- Where something stands: in the room itself, in an item of a kind, or in a used-with entry of the
item `item`. -/
inductive Site where
  | room
  | item (kind : Game.ItemKind)
  | usedWith (kind : Game.ItemKind) (item : String)
  deriving DecidableEq

def Defect.site : Defect → Site
  | .missingMetadata _        => .room
  | .metadata _ _             => .room
  | .itemShape place _        => .item place.kind
  | .item place _             => .item place.kind
  | .usedWithShape place of _ => .usedWith place.kind of
  | .usedWith place of _      => .usedWith place.kind of
  | .room _ _                 => .room

def Defect.roomName : Defect → String
  | .missingMetadata name    => name
  | .metadata name _         => name
  | .itemShape place _       => place.room
  | .item place _            => place.room
  | .usedWithShape place _ _ => place.room
  | .usedWith place _ _      => place.room
  | .room name _             => name

def Check.site : Check → Site
  | .room _                   => .room
  | .itemFields kind _        => .item kind
  | .item kind _              => .item kind
  | .usedWithFields kind of _ => .usedWith kind of
  | .usedWith kind of _       => .usedWith kind of

/-- A check of an item, or of a used-with entry, is one of the checks of an element of the list of
its kind. The name in the site of a used-with entry is that of the element. -/
inductive Check.IsAt (room : String) (items : Option Value) (c : Check) : Site → Prop
  | room : IsAt room items c .room
  | item {kind : Game.ItemKind} {vs : List Value} {v : Value} (hvs : IsItemList kind items vs)
      (hv : v ∈ vs) (hc : c ∈ itemChecks room kind v) : IsAt room items c (.item kind)
  | usedWith {kind : Game.ItemKind} {vs : List Value} {v : Value} {es : List (Value × Value)}
      {i : ItemEntry} (hvs : IsItemList kind items vs) (hv : v ∈ vs)
      (hc : c ∈ itemChecks room kind v) (hes : v.entries? = some es)
      (hi : ItemEntry.ofEntries es = .ok i) : IsAt room items c (.usedWith kind (i.name.getD ""))

/-- A check finds defects of its own site only. -/
lemma Check.site_of_defect? (h : c.defect? render room = some e) :
    e.site = c.site ∧ e.roomName = room := by
  cases c with
  | itemFields kind m =>
    obtain rfl := Option.some.inj h
    exact ⟨rfl, rfl⟩
  | usedWithFields kind of m =>
    obtain rfl := Option.some.inj h
    exact ⟨rfl, rfl⟩
  | _ =>
    obtain ⟨d, -, rfl⟩ := Option.map_eq_some_iff.1 h
    exact ⟨rfl, rfl⟩

lemma mem_listChecks {α : Type} {a other : α} {each : Value → List α} {v : Option Value}
    (h : a ∈ listChecks other each v) :
    a = other ∨ ∃ vs u, IsList v vs ∧ u ∈ vs ∧ a ∈ each u := by
  unfold listChecks at h
  split at h
  · cases h
  · cases h
  · obtain ⟨u, hu, ha⟩ := List.mem_flatMap.1 h
    exact .inr ⟨_, u, .sequence, hu, ha⟩
  · exact .inl (List.mem_singleton.1 h)

lemma site_of_mem_usedWithChecks {kind : Game.ItemKind} {item : String} {v : Value}
    (h : c ∈ usedWithChecks kind item v) : c.site = .item kind ∨ c.site = .usedWith kind item := by
  unfold usedWithChecks at h
  split at h
  · obtain rfl := List.mem_singleton.1 h
    exact .inl rfl
  · split at h
    · obtain rfl := List.mem_singleton.1 h
      exact .inr rfl
    · obtain ⟨c', -, rfl⟩ := List.mem_map.1 h
      exact .inr rfl

/-- The checks of an item are about the item and about its used-with entries. -/
lemma isAt_of_mem_itemChecks {kind : Game.ItemKind} {vs : List Value} {v : Value}
    (hvs : IsItemList kind items vs) (hv : v ∈ vs) (hc : c ∈ itemChecks room kind v) :
    c.IsAt room items c.site := by
  have hmem := hc
  -- `hc` is kept as it is: the site of an item says that the check is one of its checks.
  unfold itemChecks at hmem
  split at hmem
  · obtain rfl := List.mem_singleton.1 hmem
    exact .room
  · next es hes =>
    split at hmem
    · next m _ =>
      have hsite : c.site = .item kind := by rw [List.mem_singleton.1 hmem]; rfl
      exact hsite ▸ .item hvs hv hc
    · next i hi =>
      have hsite : c.site = .item kind ∨ c.site = .usedWith kind (i.name.getD "") := by
        rcases List.mem_append.1 hmem with hmem | hmem
        · rcases mem_listChecks hmem with rfl | ⟨us, u, -, -, hu⟩
          · exact .inl rfl
          · exact site_of_mem_usedWithChecks hu
        · obtain ⟨c', -, rfl⟩ := List.mem_map.1 hmem
          exact .inl rfl
      rcases hsite with hsite | hsite
      · exact hsite ▸ .item hvs hv hc
      · exact hsite ▸ .usedWith hvs hv hc hes hi

/-- The checks of a room file are about the room, about its items, and about their used-with
entries. -/
lemma isAt_of_mem_checks {body : List Char} (h : c ∈ checks room items body) :
    c.IsAt room items c.site := by
  have hlist : ∀ kind es, items = some (.mapping es) → c ∈ itemListChecks room kind es →
      c.IsAt room items c.site := by
    rintro kind es rfl hc
    rcases mem_listChecks hc with rfl | ⟨vs, v, hvs, hv, hc⟩
    · exact .room
    · exact isAt_of_mem_itemChecks (.mapping hvs) hv hc
  rcases List.mem_append.1 h with h | h
  · -- The checks of the items of both kinds come first.
    unfold itemsChecks at h
    split at h
    · cases h
    · cases h
    · rcases List.mem_append.1 h with h | h
      · exact hlist _ _ rfl h
      · exact hlist _ _ rfl h
    · obtain rfl := List.mem_singleton.1 h
      exact .room
  · -- The checks of the room itself come last.
    obtain ⟨c', -, rfl⟩ := List.mem_map.1 h
    exact .room

/-! ### Causes -/

/-- What a defect comes from in the end. -/
inductive Cause where
  | mismatch (mismatch : Mismatch)
  | room (defect : Draft.RoomDefect)
  | item (defect : Draft.ItemDefect)
  | usedWith (defect : Draft.UsedWithDefect)
  | action (failure : Action.Failure)

namespace Cause

/-- A defect of a used-with entry comes from an action if that fails. -/
def ofUsedWith : Draft.UsedWithDefect → Cause
  | .action _ f => .action f
  | d           => .usedWith d

def message : Cause → String
  | .mismatch m => m.message
  | .room d     => d.message
  | .item d     => d.message
  | .usedWith d => d.message
  | .action f   => f.message

end Cause

/-- The cause of a defect, unless the metadata are missing or cannot be read. -/
def Defect.cause? : Defect → Option Cause
  | .missingMetadata _   => none
  | .metadata _ _        => none
  | .itemShape _ m       => some (.mismatch m)
  | .item _ d            => some (.item d)
  | .usedWithShape _ _ m => some (.mismatch m)
  | .usedWith _ _ d      => some (.ofUsedWith d)
  | .room _ d            => some (.room d)

/-- What a check of a used-with entry finds; for an action, how it fails to compile. -/
def UsedWithCheck.cause? (render : Render) : UsedWithCheck → Option Cause
  | .action _ text => (failure? (Action.compile render text.toList)).map .action
  | c              => (c.defect? render).map .ofUsedWith

/-- What a check finds by itself, wherever it stands. -/
def Check.cause? (render : Render) (room : String) : Check → Option Cause
  | .room c               => (c.defect? render room).map .room
  | .itemFields _ m       => some (.mismatch m)
  | .item _ c             => (c.defect? render).map .item
  | .usedWithFields _ _ m => some (.mismatch m)
  | .usedWith _ _ c       => c.cause? render

lemma UsedWithCheck.cause?_eq (c : UsedWithCheck) :
    c.cause? render = (c.defect? render).map .ofUsedWith := by
  cases c with
  | action name text =>
    show _ = ((failure? _).map _).map _
    rw [Option.map_map]
    rfl
  | _ => rfl

/-- Whatever a check finds has a cause, which the check could have found by itself. -/
lemma Check.exists_cause_of_defect? (h : c.defect? render room = some e) :
    ∃ cause, c.cause? render room = some cause ∧ e.cause? = some cause := by
  cases c with
  | itemFields kind m =>
    obtain rfl := Option.some.inj h
    exact ⟨_, rfl, rfl⟩
  | usedWithFields kind of m =>
    obtain rfl := Option.some.inj h
    exact ⟨_, rfl, rfl⟩
  | room c =>
    obtain ⟨d, hd, rfl⟩ := Option.map_eq_some_iff.1 h
    exact ⟨_, by rw [cause?, hd]; rfl, rfl⟩
  | item kind c =>
    obtain ⟨d, hd, rfl⟩ := Option.map_eq_some_iff.1 h
    exact ⟨_, by rw [cause?, hd]; rfl, rfl⟩
  | usedWith kind of c =>
    obtain ⟨d, hd, rfl⟩ := Option.map_eq_some_iff.1 h
    exact ⟨_, by rw [cause?, UsedWithCheck.cause?_eq, hd]; rfl, rfl⟩

/-- The cause of a defect stands at the end of what is told about it. -/
lemma getLast?_roomFileTrace {cause : Cause} (h : e.cause? = some cause) :
    (Project.roomFileTrace e).getLast? = some cause.message := by
  cases e with
  | missingMetadata _ => cases h
  | metadata _ _ => cases h
  | usedWith place of d =>
    obtain rfl := Option.some.inj h
    cases d <;> rfl
  | _ =>
    obtain rfl := Option.some.inj h
    rfl

/-! ### The first defect -/

/-- The check `c` finds the defect `e`, and the checks in front of it find nothing. -/
structure FindsFirst (render : Render) (room : String) (pre : List Check) (c : Check) (e : Defect) :
    Prop where
  passed : ∀ p ∈ pre, p.defect? render room = none
  found : c.defect? render room = some e

variable {text body : List Char} {es : List (Value × Value)} {metadata : Metadata}

/-- A defect with a cause stands behind metadata that are read. -/
lemma exists_holds_of_read_eq_error (h : (read render room text).result = .error e)
    (hcause : e.cause? ≠ none) :
    ∃ es body metadata, Holds text es body ∧ Metadata.ofEntries es = .ok metadata := by
  unfold read at h
  split at h
  · obtain rfl := Except.error.inj h
    exact absurd rfl hcause
  · next parts hparts =>
    cases hmetadata : Metadata.ofText parts.metadata with
    | error fault =>
      rw [hmetadata] at h
      obtain rfl := Except.error.inj h
      exact absurd rfl hcause
    | ok metadata =>
      obtain ⟨es, hholds, hes⟩ := exists_holds_of_ofText hparts hmetadata
      exact ⟨es, parts.body, metadata, hholds, hes⟩

/-- A file whose metadata are read fails with what the first check finds that finds anything. -/
theorem read_eq_error_iff (hholds : Holds text es body)
    (hmetadata : Metadata.ofEntries es = .ok metadata) :
    (read render room text).result = .error e ↔
      ∃ pre c post, checks room metadata.items body = pre ++ c :: post ∧
        FindsFirst render room pre c e := by
  rw [read_of_holds hholds, readEntries, hmetadata, Logged.check_ok_bind, ← failure?_eq_some_iff,
    failure?_readRoom, List.findSome?_eq_some_iff]
  constructor
  · rintro ⟨pre, c, post, happ, hfound, hpassed⟩
    exact ⟨pre, c, post, happ, hpassed, hfound⟩
  · rintro ⟨pre, c, post, happ, hpassed, hfound⟩
    exact ⟨pre, c, post, happ, hfound, hpassed⟩

/-- A file whose metadata are read fails exactly if a check finds something, and then with what the
first such check finds. The defect tells the room and the site of this check, and the site is that of
an item in the file. What the check finds by itself is the cause of the defect and the end of its
trace. Every file that is checked alike up to there fails with the same defect. -/
theorem read_first_defect (hholds : Holds text es body)
    (hmetadata : Metadata.ofEntries es = .ok metadata) :
    (∀ e, (read render room text).result = .error e ↔
      ∃ pre c post, checks room metadata.items body = pre ++ c :: post ∧
        FindsFirst render room pre c e) ∧
    ∀ pre c post e, checks room metadata.items body = pre ++ c :: post →
      FindsFirst render room pre c e →
      e.roomName = room ∧ e.site = c.site ∧ c.IsAt room metadata.items c.site ∧
      (∃ cause, c.cause? render room = some cause ∧ e.cause? = some cause ∧
        (Project.roomFileTrace e).getLast? = some cause.message) ∧
      ∀ text' es' body' metadata' post', Holds text' es' body' →
        Metadata.ofEntries es' = .ok metadata' →
        checks room metadata'.items body' = pre ++ c :: post' →
        (read render room text').result = .error e := by
  refine ⟨fun e => read_eq_error_iff hholds hmetadata, ?_⟩
  intro pre c post e happ hfirst
  obtain ⟨hsite, hroom⟩ := Check.site_of_defect? hfirst.found
  obtain ⟨cause, hcheck, hcause⟩ := Check.exists_cause_of_defect? hfirst.found
  have hmem : c ∈ checks room metadata.items body := by simp [happ]
  refine ⟨hroom, hsite, isAt_of_mem_checks hmem,
    ⟨cause, hcheck, hcause, getLast?_roomFileTrace hcause⟩, ?_⟩
  intro text' es' body' metadata' post' hholds' hmetadata' happ'
  -- What comes after the first defect may be anything: the checks up to it are the same.
  exact (read_eq_error_iff hholds' hmetadata').2 ⟨pre, c, post', happ', hfirst⟩

/-- An action that divides by zero, in the second used-with entry of an item. Neither the action
after it nor the missing description of the item matters. -/
theorem read_first_defect_lamp :
    let text := "\n".intercalate ["---", "items:", " tangible:", " - name: lamp", "   used_with:",
      "   - name: oil", "     effect_message: x", "   - name: salt", "     effect_message: y",
      "     actions: [\"div(0, amount, oil)\", \"set(\"]", "---", "z"]
    let failure : Action.Failure := ⟨"div(0, amount, oil)".toList, .divisionByZero⟩
    (read id "hall" text.toList).result =
        .error (.usedWith ⟨.tangible, "hall"⟩ "lamp" (.action "salt" failure)) ∧
      ∃ items body pre c post, checks "hall" items body = pre ++ c :: post ∧
        c.site = .usedWith .tangible "lamp" ∧ c.cause? id "hall" = some (.action failure) := by
  intro text failure
  have hread : (read id "hall" text.toList).result =
      .error (.usedWith ⟨.tangible, "hall"⟩ "lamp" (.action "salt" failure)) := by
    decide +kernel
  obtain ⟨es, body, metadata, hholds, hmetadata⟩ :=
    exists_holds_of_read_eq_error hread (by simp [Defect.cause?])
  obtain ⟨herror, hfirst⟩ := read_first_defect hholds hmetadata
  obtain ⟨pre, c, post, happ, hfinds⟩ := (herror _).1 hread
  obtain ⟨-, hsite, -, ⟨cause, hcheck, hcause, -⟩, -⟩ := hfirst pre c post _ happ hfinds
  refine ⟨hread, metadata.items, body, pre, c, post, happ, hsite.symm, ?_⟩
  rw [hcheck, ← hcause]
  rfl

end Adventure.RoomFile
