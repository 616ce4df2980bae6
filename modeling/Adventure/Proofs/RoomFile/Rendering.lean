import Adventure.Markdown.Render
import Adventure.Proofs.Action.Rendering
import Adventure.Proofs.RoomFile.Content

/-!
# Room files under two renderings

How Markdown is rendered shows in the descriptions, in the messages and in the values of calls whose
value is a Markdown literal. Everything else in a room is the same under every rendering.

* `roomsAgree_of_read` : a file is read as rooms that agree.
* `renderings_reach_rendered_text` : what differs between two renderings, of actions and of rooms.
* `options_reach_rendered_text` : the same for the options of Markdown.
-/

namespace Adventure.RoomFile

open Yaml (Value Decoder Reads)

variable {render render' : Render} {es : List (Value × Value)}

/-! ### What an entry says -/

/-- What is read under a key, or else a default, is the same whoever reads it. -/
lemma eq_of_reads_getD {β : Type} {decode : Decoder β} {key : String} {default x x' : β}
    (h : ∃ b, Reads decode key es b ∧ x = b.getD default)
    (h' : ∃ b, Reads decode key es b ∧ x' = b.getD default) : x' = x := by
  obtain ⟨b, hb, rfl⟩ := h
  obtain ⟨b', hb', rfl⟩ := h'
  rw [hb.unique hb']

lemma Holds.unique {text body body' : List Char} {es' : List (Value × Value)}
    (h : Holds text es body) (h' : Holds text es' body') : es' = es ∧ body' = body := by
  obtain ⟨parts, hparts, hes, rfl⟩ := h
  obtain ⟨parts', hparts', hes', rfl⟩ := h'
  obtain rfl := Option.some.inj (hparts.symm.trans hparts')
  exact ⟨Except.ok.inj (hes'.symm.trans hes), rfl⟩

/-! ### Agreement -/

/-- Two used-with entries agree, apart from the message and from the values of Markdown literals. -/
structure UsedWithAgree (render render' : Render) (es : List (Value × Value))
    (w w' : Game.UsedWith) : Prop where
  name_eq : w'.name = w.name
  consumesSubject_eq : w'.consumesSubject = w.consumesSubject
  consumesObject_eq : w'.consumesObject = w.consumesObject
  actions : ∃ (actions : List String) (as as' : List Action.Assignment),
    IsList (Value.under? "actions" es) (actions.map .string) ∧
    Forall₃ (Action.StatementsAgree render render')
      ((actions.map String.toList).filter fun action => !Action.isBlank action) as as' ∧
    w.actions.toList = Action.Assignment.texts as ∧ w'.actions.toList = Action.Assignment.texts as'

/-- Two items agree, apart from the description and from what their used-with entries may say. -/
structure ItemsAgree (render render' : Render) (es : List (Value × Value))
    (item item' : Game.Item) : Prop where
  name_eq : item'.name = item.name
  amount_eq : item'.amount = item.amount
  visible_eq : item'.visible = item.visible
  effect_eq : item'.effect = item.effect
  usedWith : ∃ vs, IsList (Value.under? "used_with" es) vs ∧
    Forall₃ (fun v w w' => ∃ es, v.entries? = some es ∧ UsedWithAgree render render' es w w') vs
      item.usedWith item'.usedWith

/-- Two rooms agree, apart from the description and from what their items may say. -/
structure RoomsAgree (render render' : Render) (es : List (Value × Value))
    (room room' : Game.Room) : Prop where
  exits_eq : ∀ d : Game.Direction, room'.exits.get d = room.exits.get d
  items : ∀ kind, ∃ vs, IsItemList kind (Value.under? "items" es) vs ∧
    Forall₃ (fun v item item' => ∃ es, v.entries? = some es ∧
        ItemsAgree render render' es item item')
      vs (room.items.get kind) (room'.items.get kind)

/-! ### Entries under two renderings -/

/-- What is made of the entries of each mapping in a list, in two ways. -/
lemma forall₃_entries {α : Type} {vs : List Value} {as bs : List α}
    {P Q : List (Value × Value) → α → Prop} {R : List (Value × Value) → α → α → Prop}
    (hP : List.Forall₂ (fun v a => ∃ es, v.entries? = some es ∧ P es a) vs as)
    (hQ : List.Forall₂ (fun v b => ∃ es, v.entries? = some es ∧ Q es b) vs bs)
    (h : ∀ es a b, P es a → Q es b → R es a b) :
    Forall₃ (fun v a b => ∃ es, v.entries? = some es ∧ R es a b) vs as bs := by
  refine .of_forall₂ hP hQ ?_
  rintro v a b ⟨es, hes, ha⟩ ⟨es', hes', hb⟩
  obtain rfl := Option.some.inj (hes.symm.trans hes')
  exact ⟨es, hes, h es a b ha hb⟩

theorem IsUsedWithOf.agree {w w' : Game.UsedWith} (h : IsUsedWithOf render es w)
    (h' : IsUsedWithOf render' es w') : UsedWithAgree render render' es w w' := by
  refine ⟨Option.some.inj (h.name.unique h'.name),
    eq_of_reads_getD h.consumesSubject h'.consumesSubject,
    eq_of_reads_getD h.consumesObject h'.consumesObject, ?_⟩
  obtain ⟨actions, hactions, hw⟩ := h.actions
  obtain ⟨actions', hactions', hw'⟩ := h'.actions
  obtain rfl : actions' = actions :=
    List.map_injective_iff.2 (fun _ _ => Value.string.inj) (hactions.unique hactions')
  obtain ⟨as, as', hagree, has, has'⟩ := Action.exists_forall₃_of_compileAll hw hw'
  exact ⟨actions', as, as', hactions, hagree, has, has'⟩

theorem IsItemOf.agree {item item' : Game.Item} (h : IsItemOf render es item)
    (h' : IsItemOf render' es item') : ItemsAgree render render' es item item' := by
  have hname : item'.name = item.name := Option.some.inj (h.name.unique h'.name)
  refine ⟨hname, ?_, eq_of_reads_getD h.visible h'.visible, h.effect.unique h'.effect, ?_⟩
  · obtain ⟨written, hwritten, ha⟩ := h.amount
    obtain ⟨written', hwritten', ha'⟩ := h'.amount
    rw [hwritten.unique hwritten', hname, ha] at ha'
    exact (Except.ok.inj ha').symm
  · obtain ⟨vs, hvs, husedWith⟩ := h.usedWith
    obtain ⟨vs', hvs', husedWith'⟩ := h'.usedWith
    obtain rfl := hvs.unique hvs'
    exact ⟨vs', hvs, forall₃_entries husedWith husedWith' fun _ _ _ hw hw' => hw.agree hw'⟩

theorem IsRoomOf.agree {body : List Char} {room room' : Game.Room}
    (h : IsRoomOf render es body room) (h' : IsRoomOf render' es body room') :
    RoomsAgree render render' es room room' := by
  refine ⟨fun d => (h.exits d).unique (h'.exits d), fun kind => ?_⟩
  obtain ⟨vs, hvs, hitems⟩ := h.items kind
  obtain ⟨vs', hvs', hitems'⟩ := h'.items kind
  obtain rfl := hvs.unique hvs'
  exact ⟨vs', hvs, forall₃_entries hitems hitems' fun _ _ _ hitem hitem' => hitem.agree hitem'⟩

/-- The rooms that a file is read as under two renderings agree. -/
theorem roomsAgree_of_read {name : String} {text : List Char} {room room' : Game.Room}
    (h : (read render name text).result = .ok room)
    (h' : (read render' name text).result = .ok room') :
    ∃ es body, Holds text es body ∧ RoomsAgree render render' es room room' := by
  obtain ⟨es, body, hholds, hread⟩ := exists_holds_of_read h
  obtain ⟨es', body', hholds', hread'⟩ := exists_holds_of_read h'
  obtain ⟨rfl, rfl⟩ := hholds.unique hholds'
  exact ⟨es', body', hholds, (isRoomOf_of_readEntries hread).agree (isRoomOf_of_readEntries hread')⟩

/-- A rendering reaches nothing but rendered text. An action fails in the same way under any two of
them, or its calls and statements differ at most in a value whose token is a Markdown literal. The
rooms that a file is read as agree. -/
theorem renderings_reach_rendered_text (render render' : Render) :
    (∀ action : List Char,
      failure? (Action.parse render action) = failure? (Action.parse render' action) ∧
        Action.CompilesAlike render render' action) ∧
    ∀ (name : String) (text : List Char) (room room' : Game.Room),
      (read render name text).result = .ok room → (read render' name text).result = .ok room' →
      ∃ es body, Holds text es body ∧ RoomsAgree render render' es room room' := by
  refine ⟨fun action => ⟨Action.failure?_parse render render' action,
    Action.compilesAlike render render' action⟩, ?_⟩
  intro name text room room' h h'
  exact roomsAgree_of_read h h'

/-- The options of Markdown reach nothing but rendered text, whatever names stand for emoji. -/
theorem options_reach_rendered_text (emojis : Markdown.Emojis) (o o' : Markdown.Options) :
    (∀ action : List Char,
      failure? (Action.parse (Markdown.renderWith emojis o) action) =
          failure? (Action.parse (Markdown.renderWith emojis o') action) ∧
        Action.CompilesAlike (Markdown.renderWith emojis o) (Markdown.renderWith emojis o')
          action) ∧
    ∀ (name : String) (text : List Char) (room room' : Game.Room),
      (read (Markdown.renderWith emojis o) name text).result = .ok room →
      (read (Markdown.renderWith emojis o') name text).result = .ok room' →
      ∃ es body, Holds text es body ∧
        RoomsAgree (Markdown.renderWith emojis o) (Markdown.renderWith emojis o') es room room' :=
  renderings_reach_rendered_text (Markdown.renderWith emojis o) (Markdown.renderWith emojis o')

/-- A bell in a room with text between tildes, which may be struck out. -/
theorem options_reach_rendered_text_bell :
    let text := "\n".intercalate ["---", "up: attic", "items:", " tangible:", " - name: bell",
      "   description: x", "   used_with:", "   - name: rope", "     effect_message: \"~~x~~\"",
      "     actions: ['set(a, m\"~~x~~\", b)']", "---", "~~y~~"]
    let plain : Markdown.Options := { strikethrough := false, subscript := false }
    let rope : Game.UsedWith :=
      { name := "rope", effectMessage := "<p><del>x</del></p>"
        actions := "getRoomOrItem(\"b\")[\"a\"] = \"<p><del>x</del></p>\";" }
    let rope' : Game.UsedWith :=
      { name := "rope", effectMessage := "<p>~~x~~</p>"
        actions := "getRoomOrItem(\"b\")[\"a\"] = \"<p>~~x~~</p>\";" }
    let bell : Game.Item := { name := "bell", description := some "<p>x</p>" }
    let room : Game.Room :=
      { exits := { up := some "attic" }, description := "<p><del>y</del></p>"
        items := { tangible := [{ bell with usedWith := [rope] }] } }
    let room' : Game.Room :=
      { exits := { up := some "attic" }, description := "<p>~~y~~</p>"
        items := { tangible := [{ bell with usedWith := [rope'] }] } }
    (read (Markdown.render {}) "hall" text.toList).result = .ok room ∧
      (read (Markdown.render plain) "hall" text.toList).result = .ok room' ∧
      ∃ es body, Holds text.toList es body ∧
        RoomsAgree (Markdown.render {}) (Markdown.render plain) es room room' := by
  intro text plain rope rope' bell room room'
  have hread : (read (Markdown.render {}) "hall" text.toList).result = .ok room := by
    decide +kernel
  have hread' : (read (Markdown.render plain) "hall" text.toList).result = .ok room' := by
    decide +kernel
  obtain ⟨-, hrooms⟩ := options_reach_rendered_text Markdown.knownEmojis {} plain
  exact ⟨hread, hread', hrooms "hall" text.toList room room' hread hread'⟩

end Adventure.RoomFile
