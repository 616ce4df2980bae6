import Adventure.Draft.Room
import Adventure.Proofs.Computation

/-!
# What was written and what is compiled

When a draft compiles, and to which record.

* `UsedWith.compile_eq_ok_iff` : a used-with entry needs a name, an effect message and actions that
  compile.
* `Item.compile_eq_ok_iff` : an item needs a name and an amount, and a description unless it is
  hidden.
* `Room.compile_eq_ok_iff` : a room needs a name and a description.
-/

namespace Adventure.Draft

/-! ### Texts that are required -/

lemma nonEmpty_eq_some_iff {name : Option String} {n : String} :
    nonEmpty name = some n ↔ name = some n ∧ n ≠ "" := by
  simp [nonEmpty, Option.filter_eq_some_iff]

lemma nonBlank_eq_some_iff {text : Option String} {t : String} :
    nonBlank text = some t ↔ text = some t ∧ Text.isBlank t.toList = false := by
  simp [nonBlank, Option.filter_eq_some_iff]

/-! ### Used-with entries -/

/-- The statements of the actions in an entry are those of their texts. The log plays no part in it.
-/
lemma compileActions_eq_ok_iff {render : List Char → List Char} {actions : List String}
    {statements : String} :
    (compileActions render actions).result = .ok statements ↔
      Action.compileAll render (actions.map String.toList) = .ok statements.toList := by
  show (String.ofList <$> Action.compileAll render (actions.map String.toList)) = _ ↔ _
  rw [map_eq_ok_iff]
  constructor
  · rintro ⟨cs, hcs, rfl⟩
    rwa [String.toList_ofList]
  · intro h
    exact ⟨_, h, String.ofList_toList⟩

/-- A used-with entry compiles to what was written, with its actions compiled. -/
theorem UsedWith.compile_eq_ok_iff {render : List Char → List Char} {u : UsedWith}
    {w : Game.UsedWith} :
    (u.compile render).result = .ok w ↔
      (u.name = some w.name ∧ w.name ≠ "") ∧
      (u.effectMessage = some w.effectMessage ∧ Text.isBlank w.effectMessage.toList = false) ∧
      w.consumesSubject = u.consumesSubject.getD false ∧
      w.consumesObject = u.consumesObject.getD false ∧
      Action.compileAll render (u.actions.map String.toList) = .ok w.actions.toList := by
  rw [← nonEmpty_eq_some_iff, ← nonBlank_eq_some_iff, ← compileActions_eq_ok_iff]
  unfold compile
  cases hname : nonEmpty u.name with
  | none => simp [Logged.fail]
  | some name =>
    cases hmessage : nonBlank u.effectMessage with
    | none => simp [Logged.fail]
    | some effectMessage =>
      simp only [Logged.result_bind_eq_ok_iff, Logged.result_mapError_eq_ok_iff]
      constructor
      · rintro ⟨actions, hactions, hw⟩
        obtain rfl := pure_eq_ok_iff.1 hw
        exact ⟨rfl, rfl, rfl, rfl, hactions⟩
      · obtain ⟨name', message', subject, object, actions⟩ := w
        rintro ⟨hn, hm, rfl, rfl, hactions⟩
        obtain rfl := Option.some.inj hn
        obtain rfl := Option.some.inj hm
        exact ⟨actions, hactions, rfl⟩

/-! ### Items -/

/-- An item compiles to what was written, a blank description aside, with the amount that was
meant. -/
theorem Item.compile_eq_ok_iff {i : Item} {item : Game.Item} :
    i.compile = .ok item ↔
      (i.name = some item.name ∧ item.name ≠ "") ∧
      item.visible = i.visible.getD true ∧
      item.description = nonBlank i.description ∧
      (item.visible = true → item.description ≠ none) ∧
      resolveAmount item.name i.amount = .ok item.amount ∧
      item.effect = i.effect ∧ item.usedWith = i.usedWith := by
  rw [← nonEmpty_eq_some_iff]
  obtain ⟨n, description, amount, visible, effect, usedWith⟩ := item
  unfold compile
  cases hname : nonEmpty i.name with
  | none => simp [throw_ne_ok]
  | some name =>
    dsimp only
    split_ifs with hmissing
    · -- A visible item without a description is refused on both sides.
      simp only [bind_eq_ok_iff, throw_ne_ok, false_and, exists_false, false_iff]
      rintro ⟨-, rfl, rfl, hdescribed, -⟩
      simp_all
    · simp only [bind_eq_ok_iff, pure_eq_ok_iff, Game.Item.mk.injEq]
      constructor
      · rintro ⟨amount, hamount, rfl, rfl, rfl, rfl, rfl, rfl⟩
        refine ⟨rfl, rfl, rfl, ?_, hamount, rfl, rfl⟩
        intro hvisible hnone
        exact hmissing (by simp [hvisible, hnone])
      · rintro ⟨hn, rfl, rfl, -, hamount, rfl, rfl⟩
        obtain rfl := Option.some.inj hn
        exact ⟨amount, hamount, rfl, rfl, rfl, rfl, rfl, rfl⟩

/-! ### Rooms -/

/-- A room compiles to what was written, without its name. -/
theorem Room.compile_eq_ok_iff {r : Room} {room : Game.Room} :
    r.compile = .ok room ↔
      r.name ≠ "" ∧ Text.isBlank r.description.toList = false ∧
      room = { description := r.description, exits := r.exits, items := r.items } := by
  unfold compile
  split_ifs with hname hblank
  · simp [String.isEmpty_iff.1 hname]
  · simp [hblank]
  · rw [String.isEmpty_iff] at hname
    simp [hname, hblank, eq_comm]

end Adventure.Draft
