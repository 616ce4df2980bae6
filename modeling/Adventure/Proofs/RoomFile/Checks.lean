import Adventure.Proofs.RoomFile.Entries

/-!
# The checks of a room file

Everything that is checked in a room file after its metadata are read, in the order of the file. A
check knows what it looks at and where that stands, and reading fails with what the first check
finds that finds anything.

* `checks` : the checks of a room file.
* `failure?_readUsedWith`, `failure?_readItem`, `failure?_readRoom` : reading fails where the first
  check does.
-/

namespace Adventure.RoomFile

open Yaml (Value)

/-! ### What is checked -/

/-- A check of a used-with entry whose fields are read. A check of a shape stands only where there
is a value of another one. -/
inductive UsedWithCheck where
  | shape (defect : Draft.UsedWithDefect)
  | name (name : String)
  | effectMessage (name : String) (text : Option String)
  | action (name action : String)

/-- A check of an item whose fields are read. -/
inductive ItemCheck where
  | shape (defect : Draft.ItemDefect)
  | name (name : String)
  | description (name : String) (visible : Bool) (text : Option String)
  | amount (name : String) (written : Option Draft.Amount)

/-- A check of a room. -/
inductive RoomCheck where
  | shape (defect : Draft.RoomDefect)
  | name
  | description (body : List Char)

/-- A check of a room file: of its room, of an item of a kind, or of a used-with entry of the item
`item`. A check of fields stands only where they cannot be read. -/
inductive Check where
  | room (check : RoomCheck)
  | itemFields (kind : Game.ItemKind) (mismatch : Mismatch)
  | item (kind : Game.ItemKind) (check : ItemCheck)
  | usedWithFields (kind : Game.ItemKind) (item : String) (mismatch : Mismatch)
  | usedWith (kind : Game.ItemKind) (item : String) (check : UsedWithCheck)

/-! ### What a check finds -/

/-- Nothing of the text is left for the player to see. -/
def isUnseen (render : Render) (text : Option String) : Bool :=
  text.all fun t => Text.isBlank (render t.toList)

def UsedWithCheck.defect? (render : Render) : UsedWithCheck → Option Draft.UsedWithDefect
  | .shape defect         => some defect
  | .name n               => if n = "" then some .missingName else none
  | .effectMessage n text =>
    if isUnseen render text then some (.missingEffectMessage n) else none
  | .action n text        => (failure? (Action.compile render text.toList)).map (.action n)

def ItemCheck.defect? (render : Render) : ItemCheck → Option Draft.ItemDefect
  | .shape defect               => some defect
  | .name n                     => if n = "" then some .missingName else none
  | .description n visible text =>
    if visible && isUnseen render text then some (.missingDescription n) else none
  | .amount n written           => written.bind fun a => (failure? a.resolve).map (.amount n)

def RoomCheck.defect? (render : Render) (room : String) : RoomCheck → Option Draft.RoomDefect
  | .shape defect     => some defect
  | .name             => if room = "" then some .missingName else none
  | .description body =>
    if Text.isBlank (render body) then some (.missingDescription room) else none

/-- What is wrong with the file of the room `room`. -/
def Check.defect? (render : Render) (room : String) : Check → Option Defect
  | .room c                    => (c.defect? render room).map (.room room)
  | .itemFields kind m         => some (.itemShape ⟨kind, room⟩ m)
  | .item kind c               => (c.defect? render).map (.item ⟨kind, room⟩)
  | .usedWithFields kind of m  => some (.usedWithShape ⟨kind, room⟩ of m)
  | .usedWith kind of c        => (c.defect? render).map (.usedWith ⟨kind, room⟩ of)

/-! ### The order of the checks -/

/-- The checks of a list, element by element. It may be missing or null; the check `other` is that
of anything else. -/
def listChecks {α : Type} (other : α) (each : Value → List α) : Option Value → List α
  | none                => []
  | some .null          => []
  | some (.sequence vs) => vs.flatMap each
  | some _              => [other]

/-- The check that an action is a text. -/
def actionShapeChecks (name : String) : Value → List UsedWithCheck
  | .string _ => []
  | v         => [.shape (.actionOfWrongType v.describe name)]

/-- The texts among the elements of a list. -/
def textsOf : Option Value → List String
  | some (.sequence vs) => vs.filterMap fun | .string s => some s | _ => none
  | _                   => []

/-- The checks of the fields of a used-with entry: the shape of every action, the name, the effect
message, and what the actions say. -/
def UsedWithEntry.checks (u : UsedWithEntry) : List UsedWithCheck :=
  let name := u.name.getD ""
  listChecks (.shape (.actionsNotAList name)) (actionShapeChecks name) u.actions ++
    .name name :: .effectMessage name u.effectMessage :: (textsOf u.actions).map (.action name)

/-- The checks of a used-with entry of the item `item`. -/
def usedWithChecks (kind : Game.ItemKind) (item : String) (v : Value) : List Check :=
  match v.entries? with
  | none    => [.item kind (.shape (.usedWithOfWrongType v.describe item))]
  | some es =>
    match UsedWithEntry.ofEntries es with
    | .error m => [.usedWithFields kind item m]
    | .ok u    => u.checks.map (.usedWith kind item)

/-- The checks of the fields of an item, apart from its used-with entries. -/
def ItemEntry.checks (i : ItemEntry) : List ItemCheck :=
  let name := i.name.getD ""
  [.name name, .description name (i.visible.getD true) i.description, .amount name i.amount]

/-- The checks of an item. Its used-with entries come before its own fields. -/
def itemChecks (room : String) (kind : Game.ItemKind) (v : Value) : List Check :=
  match v.entries? with
  | none    => [.room (.shape (.itemOfWrongType v.describe room))]
  | some es =>
    match ItemEntry.ofEntries es with
    | .error m => [.itemFields kind m]
    | .ok i    =>
      let name := i.name.getD ""
      listChecks (.item kind (.shape (.usedWithNotAList name))) (usedWithChecks kind name)
          i.usedWith ++
        i.checks.map (.item kind)

def itemListChecks (room : String) (kind : Game.ItemKind) (es : List (Value × Value)) :
    List Check :=
  listChecks (.room (.shape (.notAList kind room))) (itemChecks room kind)
    (Value.lookup kind.name es)

/-- The checks of the items of a room. The tangible ones come before the intangible ones. -/
def itemsChecks (room : String) : Option Value → List Check
  | none               => []
  | some .null         => []
  | some (.mapping es) => itemListChecks room .tangible es ++ itemListChecks room .intangible es
  | some _             => [.room (.shape (.itemsNotAMapping room))]

/-- The checks of the file of a room. Its items come before the room itself. -/
def checks (room : String) (items : Option Value) (body : List Char) : List Check :=
  itemsChecks room items ++ [RoomCheck.name, .description body].map .room

/-! ### Reading fails where the first check does -/

variable {render : Render} {room : String}

lemma nonEmpty_eq (name : Option String) :
    Draft.nonEmpty name = if name.getD "" = "" then none else some (name.getD "") := by
  cases name with
  | none => rfl
  | some n => simp [Draft.nonEmpty, Option.filter]

lemma isNone_nonBlank (text : Option String) :
    (Draft.nonBlank (text.map (renderString render))).isNone = isUnseen render text := by
  cases text with
  | none => rfl
  | some t =>
    cases h : Text.isBlank (render t.toList) <;>
      simp [Draft.nonBlank, isUnseen, renderString, Option.filter, h]

/-- A list is read up to the first check of an element that finds anything. -/
lemma failure?_elements {ε α β : Type} {onOther : ε} {other : α} {each : Value → List α}
    {f : Value → Except ε β} (find : α → Option ε) (hother : find other = some onOther)
    (heach : ∀ v, failure? (f v) = (each v).findSome? find) (v : Option Value) :
    failure? (elements onOther v >>= fun vs => vs.mapM f) =
      (listChecks other each v).findSome? find := by
  have hsequence : ∀ vs : List Value, failure? (vs.mapM f) = (vs.flatMap each).findSome? find := by
    intro vs
    rw [failure?_mapM, findSome?_flatMap]
    simp only [heach]
  cases v with
  | none => rfl
  | some v =>
    cases v with
    | null => rfl
    | sequence vs => exact hsequence vs
    | _ => exact (List.findSome?_singleton.trans hother).symm

/-- Reading a list fails as the first of its checks that fails. The list itself is checked before
its elements. -/
lemma failure?_readElements {ε α β : Type} {onOther : ε} {other : α} {each : Value → List α}
    {f : Value → Logged ε β} (find : α → Option ε) (hother : find other = some onOther)
    (heach : ∀ v, failure? (f v).result = (each v).findSome? find) (v : Option Value) :
    failure? (Logged.ofExcept (elements onOther v) >>= fun vs => vs.mapM f).result =
      (listChecks other each v).findSome? find := by
  rw [Logged.result_bind]
  simp only [Logged.result_mapM]
  exact failure?_elements find hother heach v

/-! #### Used-with entries -/

/-- The actions of a used-with entry are read if they are a list of texts. -/
lemma failure?_actionTexts (u : UsedWithEntry) :
    failure? (actionTexts u) =
      (listChecks (.shape (.actionsNotAList (u.name.getD ""))) (actionShapeChecks (u.name.getD ""))
        u.actions).findSome? (UsedWithCheck.defect? render) := by
  refine failure?_elements (UsedWithCheck.defect? render) rfl ?_ u.actions
  intro v
  cases v <;> rfl

lemma textsOf_of_isList {v : Option Value} {texts : List String}
    (h : IsList v (texts.map .string)) : textsOf v = texts := by
  generalize hvs : texts.map Value.string = vs at h
  cases h with
  | missing => exact (List.map_eq_nil_iff.1 hvs).symm
  | null => exact (List.map_eq_nil_iff.1 hvs).symm
  | sequence =>
    rw [← hvs, textsOf, List.filterMap_map]
    exact List.filterMap_some

/-- A list of actions fails as the first of them that fails. -/
lemma failure?_compileAll (actions : List (List Char)) :
    failure? (Action.compileAll render actions) =
      actions.findSome? fun a => failure? (Action.compile render a) := by
  induction actions with
  | nil => rfl
  | cons a as ih =>
    rw [Action.compileAll, List.findSome?_cons, failure?_bind]
    · cases Action.compile render a <;> rfl
    · intro statement _
      exact (failure?_bind_pure _ _).trans ih

lemma failure?_compileActions (actions : List String) :
    failure? (Draft.compileActions render actions).result =
      actions.findSome? fun a => failure? (Action.compile render a.toList) := by
  show failure? (String.ofList <$> Action.compileAll render (actions.map String.toList)) = _
  rw [failure?_map, failure?_compileAll, List.findSome?_map]
  rfl

/-- A used-with entry fails as its first check that fails: the name, the message, and then the
actions. -/
lemma failure?_compileUsedWith (u : UsedWithEntry) (texts : List String) :
    failure? (Draft.UsedWith.compile render
        { name := u.name, effectMessage := u.effectMessage.map (renderString render)
          consumesSubject := u.consumesSubject, consumesObject := u.consumesObject
          actions := texts }).result =
      (UsedWithCheck.name (u.name.getD "") :: .effectMessage (u.name.getD "") u.effectMessage ::
        texts.map (.action (u.name.getD ""))).findSome? (UsedWithCheck.defect? render) := by
  rw [Draft.UsedWith.compile, nonEmpty_eq, List.findSome?_cons, List.findSome?_cons]
  simp only [UsedWithCheck.defect?]
  -- Without a name the check of the name decides, and with one all defects tell the same name.
  by_cases hname : u.name.getD "" = ""
  · simp only [if_pos hname]
    rfl
  · simp only [if_neg hname, ← isNone_nonBlank]
    cases Draft.nonBlank (u.effectMessage.map (renderString render)) with
    | none => rfl
    | some message =>
      refine (Logged.failure?_bind_pure _ _).trans ?_
      rw [Logged.mapError, failure?_mapError, failure?_compileActions, List.map_findSome?,
        List.findSome?_map]
      rfl

/-- Reading a used-with entry fails as the first of its checks that fails. -/
lemma failure?_readUsedWith (kind : Game.ItemKind) (item : String) (v : Value) :
    failure? (readUsedWith render ⟨kind, room⟩ item v).result =
      (usedWithChecks kind item v).findSome? (Check.defect? render room) := by
  unfold readUsedWith usedWithChecks
  cases v.entries? with
  | none => rfl
  | some es =>
    dsimp only
    cases UsedWithEntry.ofEntries es with
    | error m => rfl
    | ok u =>
      rw [Logged.check_ok_bind]
      dsimp only
      have hwrap : ∀ c, Check.defect? render room (.usedWith kind item c) =
          (c.defect? render).map (.usedWith ⟨kind, room⟩ item) := fun c => rfl
      rw [findSome?_map_of_forall hwrap, UsedWithEntry.checks, List.findSome?_append,
        Option.map_or, ← failure?_actionTexts]
      refine (Logged.failure?_bind ?_).trans (congrArg (Option.or · _) (failure?_mapError ..))
      -- The shapes are checked by now, so the texts of the actions are those of the list.
      intro texts htexts
      rw [textsOf_of_isList (actionTexts_eq_ok_iff.1 (Logged.result_check_eq_ok_iff.1 htexts)),
        ← failure?_compileUsedWith]
      exact failure?_mapError ..

/-! #### Items -/

lemma failure?_resolveAmount (name : String) (written : Option Draft.Amount) :
    failure? (Draft.resolveAmount name written) =
      (ItemCheck.amount name written).defect? render := by
  cases written with
  | none => rfl
  | some a => exact failure?_mapError ..

/-- An item fails as its first check that fails: the name, the description, and then the amount. -/
lemma failure?_compileItem (i : ItemEntry) (usedWith : List Game.UsedWith) :
    failure? (Draft.Item.compile
        { name := i.name, description := i.description.map (renderString render), amount := i.amount
          visible := i.visible, effect := i.effect, usedWith }) =
      i.checks.findSome? (ItemCheck.defect? render) := by
  rw [Draft.Item.compile, nonEmpty_eq, ItemEntry.checks, List.findSome?_cons, List.findSome?_cons,
    List.findSome?_singleton, ← failure?_resolveAmount]
  simp only [ItemCheck.defect?, isNone_nonBlank]
  by_cases hname : i.name.getD "" = ""
  · simp only [if_pos hname]
    rfl
  · simp only [if_neg hname]
    split_ifs
    · rfl
    · exact failure?_bind_pure _ _

/-- Reading an item fails as the first of its checks that fails, used-with entries first. -/
lemma failure?_readItem (kind : Game.ItemKind) (v : Value) :
    failure? (readItem render ⟨kind, room⟩ v).result =
      (itemChecks room kind v).findSome? (Check.defect? render room) := by
  unfold readItem itemChecks
  cases v.entries? with
  | none => rfl
  | some es =>
    dsimp only
    cases ItemEntry.ofEntries es with
    | error m => rfl
    | ok i =>
      rw [Logged.check_ok_bind]
      dsimp only
      have hwrap : ∀ c, Check.defect? render room (.item kind c) =
          (c.defect? render).map (.item ⟨kind, room⟩) := fun c => rfl
      rw [List.findSome?_append, findSome?_map_of_forall hwrap, ← bind_assoc,
        ← failure?_readElements (Check.defect? render room) rfl
          (failure?_readUsedWith kind (i.name.getD ""))]
      -- The checks of an item do not look at what was read of its used-with entries.
      refine Logged.failure?_bind fun usedWith _ => ?_
      rw [← failure?_compileItem i usedWith]
      exact failure?_mapError ..

lemma failure?_readItemsOf (kind : Game.ItemKind) (es : List (Value × Value)) :
    failure? (readItemsOf render ⟨kind, room⟩ es).result =
      (itemListChecks room kind es).findSome? (Check.defect? render room) := by
  exact failure?_readElements (Check.defect? render room) rfl (failure?_readItem kind) _

/-- Reading the items of a room fails as the first of their checks that fails. -/
lemma failure?_readItems (items : Option Value) :
    failure? (readItems render room items).result =
      (itemsChecks room items).findSome? (Check.defect? render room) := by
  cases items with
  | none => rfl
  | some v =>
    cases v with
    | null => rfl
    | mapping es =>
      rw [itemsChecks, List.findSome?_append, ← failure?_readItemsOf, ← failure?_readItemsOf]
      refine Logged.failure?_bind fun tangible _ => ?_
      exact Logged.failure?_bind_pure _ _
    | _ => rfl

/-! #### Rooms -/

lemma failure?_compileRoom (exits : Game.Exits) (items : Game.Items) (body : List Char) :
    failure? (Draft.Room.compile
        { name := room, description := String.ofList (render body), exits, items }) =
      [RoomCheck.name, .description body].findSome? (RoomCheck.defect? render room) := by
  rw [Draft.Room.compile, List.findSome?_cons, List.findSome?_singleton]
  simp only [RoomCheck.defect?, String.isEmpty_iff, String.toList_ofList]
  split_ifs <;> rfl

/-- Reading a room fails as the first of its checks that fails, items first. -/
theorem failure?_readRoom (metadata : Metadata) (body : List Char) :
    failure? (readRoom render room metadata body).result =
      (checks room metadata.items body).findSome? (Check.defect? render room) := by
  rw [checks, List.findSome?_append, ← failure?_readItems]
  refine Logged.failure?_bind fun items _ => ?_
  have hwrap : ∀ c, Check.defect? render room (.room c) =
      (c.defect? render room).map (.room room) := fun c => rfl
  rw [findSome?_map_of_forall hwrap, ← failure?_compileRoom metadata.exits items]
  exact failure?_mapError ..

end Adventure.RoomFile
