import Adventure.Markdown.Render
import Adventure.Proofs.Yaml.Description
import Adventure.RoomFile.Reading

/-!
# Messages about values of the wrong shape

A room file may have any value where an item, a used-with entry or an action belongs. The message
about it shows the value, and stands on one line but for the line feeds of a string or of a tag.

* `newline_mem_shape_messages` : line feeds in these messages.
-/

namespace Adventure.RoomFile

open Yaml

variable {render : Render} {place : ItemPlace} {item name : String} {v : Value}

/-! ### What is read -/

lemma readItem_of_entries?_eq_none (render : Render) (place : ItemPlace) (h : v.entries? = none) :
    (readItem render place v).result =
      .error (.room place.room (.itemOfWrongType v.describe place.room)) := by
  rw [readItem, h]
  rfl

lemma readUsedWith_of_entries?_eq_none (render : Render) (place : ItemPlace) (item : String)
    (h : v.entries? = none) : (readUsedWith render place item v).result =
      .error (.item place (.usedWithOfWrongType v.describe item)) := by
  rw [readUsedWith, h]
  rfl

lemma actionText_of_ne (name : String) (h : ∀ s, v ≠ .string s) :
    actionText name v = .error (.actionOfWrongType v.describe name) := by
  cases v with
  | string s => exact absurd rfl (h s)
  | _ => rfl

/-! ### What is said about it -/

/-- A message on one line that shows an entry and a name. -/
lemma newline_mem_message_iff {front middle back : String} (hfront : '\n' ∉ front.toList)
    (hmiddle : '\n' ∉ middle.toList) (hback : '\n' ∉ back.toList) (hname : '\n' ∉ name.toList)
    (entry : String) :
    '\n' ∈ (front ++ entry ++ middle ++ name ++ back).toList ↔ '\n' ∈ entry.toList := by
  simp [hfront, hmiddle, hback, hname]

/-- The text around the entry in the message has no line feed. -/
lemma newline_mem_itemOfWrongType_iff (h : '\n' ∉ name.toList) (entry : String) :
    '\n' ∈ (Draft.RoomDefect.itemOfWrongType entry name).message.toList ↔ '\n' ∈ entry.toList :=
  newline_mem_message_iff (by decide) (by decide) (by decide) h entry

lemma newline_mem_usedWithOfWrongType_iff (h : '\n' ∉ name.toList) (entry : String) :
    '\n' ∈ (Draft.ItemDefect.usedWithOfWrongType entry name).message.toList ↔
      '\n' ∈ entry.toList :=
  newline_mem_message_iff (by decide) (by decide) (by decide) h entry

lemma newline_mem_actionOfWrongType_iff (h : '\n' ∉ name.toList) (entry : String) :
    '\n' ∈ (Draft.UsedWithDefect.actionOfWrongType entry name).message.toList ↔
      '\n' ∈ entry.toList :=
  newline_mem_message_iff (by decide) (by decide) (by decide) h entry

/-- The message about a value that is no item, no used-with entry or no action of something with a
name on one line has a line feed if and only if the description of the value has one: where the
value is a string with a line feed, or where it has a tag with a line feed and no written form. A
string is an action, so that only the latter can happen there. -/
theorem newline_mem_shape_messages (render : Render) (hroom : '\n' ∉ place.room.toList)
    (hname : '\n' ∉ name.toList) (v : Value) :
    ('\n' ∈ v.describe.toList ↔ v.KeepsNewline) ∧
    (v.entries? = none → ∃ d, (readItem render place v).result = .error (.room place.room d) ∧
      ('\n' ∈ d.message.toList ↔ v.KeepsNewline)) ∧
    (v.entries? = none → ∃ d, (readUsedWith render place name v).result = .error (.item place d) ∧
      ('\n' ∈ d.message.toList ↔ v.KeepsNewline)) ∧
    ((∀ s, v ≠ .string s) → ∃ d, actionText name v = .error d ∧
      ('\n' ∈ d.message.toList ↔ v.isWritable false = false ∧ HasNewline v.tags)) := by
  have hdescribe := newline_mem_describe_iff v
  refine ⟨hdescribe, fun h => ?_, fun h => ?_, fun h => ?_⟩
  · refine ⟨_, readItem_of_entries?_eq_none render place h, ?_⟩
    rw [newline_mem_itemOfWrongType_iff hroom, hdescribe]
  · refine ⟨_, readUsedWith_of_entries?_eq_none render place name h, ?_⟩
    rw [newline_mem_usedWithOfWrongType_iff hname, hdescribe]
  · refine ⟨_, actionText_of_ne name h, ?_⟩
    rw [newline_mem_actionOfWrongType_iff hname, hdescribe, Value.keepsNewline_iff_of_ne h]

/-- A list of strings of several lines, with a tag. -/
theorem newline_mem_shape_messages_list :
    let v : Value := .sequence [.string "a\nb", .tagged "c" (.string "\n")]
    ∃ d, (readItem (Markdown.render {}) ⟨.tangible, "hall"⟩ v).result = .error (.room "hall" d) ∧
      '\n' ∉ d.message.toList := by
  intro v
  obtain ⟨-, hitem, -⟩ := newline_mem_shape_messages (Markdown.render {})
    (show '\n' ∉ (ItemPlace.mk .tangible "hall").room.toList by decide)
    (show '\n' ∉ "lamp".toList by decide) v
  obtain ⟨d, hd, hmessage⟩ := hitem rfl
  refine ⟨d, hd, hmessage.not.2 ?_⟩
  rw [Value.keepsNewline_iff_of_ne (by simp [v])]
  rintro ⟨hw, -⟩
  exact absurd hw (by decide)

/-- A string in the place of an item keeps its line feed in the message about the room. -/
theorem exists_newline_in_message :
    let text := "\n".intercalate ["---", "items:", "  tangible:", "    - \"a\\nb\"", "---", "Hall."]
    ∃ d, (read (Markdown.render {}) "origin" text.toList).result = .error (.room "origin" d) ∧
      d.message = "Item `a\nb` has incorrect type for room `origin`" ∧
      '\n' ∈ d.message.toList := by
  intro text
  exact ⟨.itemOfWrongType "a\nb" "origin", by decide +kernel, rfl, by decide⟩

end Adventure.RoomFile
