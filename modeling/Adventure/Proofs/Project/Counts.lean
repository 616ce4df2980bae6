import Adventure.Proofs.Project.Merge
import Adventure.Proofs.RoomFile.Soundness

/-!
# Amounts in compiled projects

Every room of a compiled project is read from the text of a file, so that the amounts of its items
are positive, however they were written.

* `Project.hasPositiveAmounts_of_readRooms`, `Project.hasPositiveAmounts_of_compile` : the amounts
  in the rooms of files, and in a project, are positive.
-/

namespace Adventure

namespace Project

open Files

variable {render : RoomFile.Render} {files : Tree} {emojis : Markdown.Emojis}

/-- The amounts in the rooms of files are positive. -/
theorem hasPositiveAmounts_of_readRooms {paths : List String} {game : Game.Data}
    (h : (readRooms render files paths).result = .ok game) : game.HasPositiveAmounts := by
  rw [readRooms_eq_mergeRooms] at h
  intro r hr
  obtain ⟨path, -, -, text, -, hread⟩ := exists_of_mem_rooms h hr
  exact RoomFile.hasPositiveAmounts_of_read hread

/-- A compiled project consists of the rooms of its files. -/
lemma exists_of_compile {dir : String} {game : Game.Data}
    (h : (compile files dir emojis).result = .ok game) :
    ∃ settings paths, (Settings.load files dir).result = .ok settings ∧
      collect files (join dir roomsName) = .ok paths ∧
      (readRooms (Markdown.renderWith emojis settings.markdown) files paths).result = .ok game := by
  unfold compile at h
  obtain ⟨-, -, h⟩ := Logged.result_bind_eq_ok_iff.1 h
  obtain ⟨settings, hsettings, h⟩ := Logged.result_bind_eq_ok_iff.1 h
  obtain ⟨paths, hpaths, h⟩ := Logged.result_bind_eq_ok_iff.1 h
  obtain ⟨game, hgame, h⟩ := Logged.result_bind_eq_ok_iff.1 h
  obtain ⟨-, -, h⟩ := Logged.result_bind_eq_ok_iff.1 h
  obtain rfl := pure_eq_ok_iff.1 h
  exact ⟨settings, paths, mapError_eq_ok_iff.1 hsettings, hpaths, hgame⟩

/-- The amounts in a project are positive. -/
theorem hasPositiveAmounts_of_compile {dir : String} {game : Game.Data}
    (h : (compile files dir emojis).result = .ok game) : game.HasPositiveAmounts := by
  obtain ⟨settings, paths, -, -, hread⟩ := exists_of_compile h
  exact hasPositiveAmounts_of_readRooms hread

end Project

end Adventure
