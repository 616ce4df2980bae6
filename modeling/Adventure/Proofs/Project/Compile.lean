import Adventure.Proofs.Game.Lint
import Adventure.Proofs.Project.Listing
import Adventure.Proofs.Project.Merge
import Adventure.Proofs.Text.Bytes

/-!
# Compiled projects

A compiled project has one room for each of its room files, and it does not compile where something
is wrong with its layout, with its settings or with a room file.

* `result_compile_of_isLaidOut` : the room files are read behind the settings.
* `hasRoomsOf_of_mergeRooms` : which rooms there are.
* `compile_eq_error_iff_isFirstDefect` : what is wrong first.
* `compile_relists` : the order of the listings does not matter.
* `compile_has_exactly_rooms` : what a project is compiled to.
-/

namespace Adventure.Project

open Files

variable {render : RoomFile.Render} {files files' : Tree} {dir file : String}
  {es : List (String × Tree)} {text : Option (List Char)} {game : Game.Data} {e : Defect}
  {emojis : Markdown.Emojis}

/-! ### Projects -/

def roomPath (dir file : String) : String := join (join dir roomsName) file

/-- The paths of the room files among the entries of the directory of room files, in order. -/
def roomPaths (dir : String) (es : List (String × Tree)) : List String :=
  (roomFileNames es).map (roomPath dir)

/-- The name of the file of the room in which the player starts. -/
def originFile : String := Game.originRoom ++ "." ++ roomExtension

/-- The directory of room files has the entries `es`, and among them there is the file of the room
in which the player starts. -/
structure IsLaidOut (files : Tree) (dir : String) (es : List (String × Tree)) : Prop where
  rooms : files.find (join dir roomsName) = .ok (.directory es)
  origin : ∃ text, (originFile, Tree.file text) ∈ es

/-- The file holds the room that is named by its stem. -/
def HoldsRoom (render : RoomFile.Render) (file : String) (text : Option (List Char))
    (room : Game.Room) : Prop :=
  ∃ cs, text = some cs ∧ (RoomFile.read render (stem file) cs).result = .ok room

/-- What is wrong with a file that holds no room. -/
inductive IsRoomFileDefect (render : RoomFile.Render) (dir file : String) :
    Option (List Char) → Defect → Prop
  | notText : IsRoomFileDefect render dir file none (.unreadable (roomPath dir file) .notText)
  | roomFile {cs : List Char} {d : RoomFile.Defect}
      (h : (RoomFile.read render (stem file) cs).result = .error d) :
      IsRoomFileDefect render dir file (some cs) (.roomFile (roomPath dir file) d)

/-- The game has the rooms of the room files among the entries `es`, each under the stem of its
file, and no other room. No two room files have the same stem. -/
structure HasRoomsOf (render : RoomFile.Render) (es : List (String × Tree)) (game : Game.Data) :
    Prop where
  stem_inj : ∀ file file' text text', HasRoomFile es file text → HasRoomFile es file' text' →
    stem file = stem file' → file = file'
  names : game.names.Perm (((es.filter isRoomFile).map Prod.fst).map stem)
  rooms : ∀ file text, HasRoomFile es file text →
    ∃ room, HoldsRoom render file text room ∧ game.find? (stem file) = some room

/-- What is wrong first with a project: its layout, then its settings, then the first room file that
holds no room, in the order of the bytes of the names. -/
inductive IsFirstDefect (emojis : Markdown.Emojis) (files : Tree) (dir : String) : Defect → Prop
  | missingRooms (h : ∀ es, files.find (join dir roomsName) ≠ .ok (.directory es)) :
      IsFirstDefect emojis files dir (.missingRooms dir)
  | missingOrigin {es : List (String × Tree)}
      (hrooms : files.find (join dir roomsName) = .ok (.directory es))
      (h : ∀ text, (originFile, Tree.file text) ∉ es) : IsFirstDefect emojis files dir (.missingOrigin dir)
  | settings {es : List (String × Tree)} {d : Settings.Defect} (hes : IsLaidOut files dir es)
      (h : (Settings.load files dir).result = .error d) : IsFirstDefect emojis files dir (.settings d)
  | roomFile {es : List (String × Tree)} {settings : Settings} {file : String}
      {text : Option (List Char)} {e : Defect} (hes : IsLaidOut files dir es)
      (hsettings : (Settings.load files dir).result = .ok settings)
      (hfile : HasRoomFile es file text)
      (hsmaller : ∀ file' text', HasRoomFile es file' text' → Text.bytes file' < Text.bytes file →
        ∃ room, HoldsRoom (Markdown.renderWith emojis settings.markdown) file' text' room)
      (h : IsRoomFileDefect (Markdown.renderWith emojis settings.markdown) dir file text e) :
      IsFirstDefect emojis files dir e

/-! ### Layout -/

lemma isDirectory_iff {path : String} :
    files.isDirectory path = true ↔ ∃ es, files.find path = .ok (.directory es) := by
  unfold Tree.isDirectory
  split
  · next es hes => simp [hes]
  · next hne =>
    simp only [Bool.false_eq_true, false_iff, not_exists]
    exact hne

/-- The room in which the player starts has a file exactly if the directory of room files lists one.
-/
lemma isFile_originPath_iff (hvalid : files.IsValid)
    (hrooms : files.find (join dir roomsName) = .ok (.directory es)) :
    files.isFile (originPath dir) = true ↔ ∃ text, (originFile, Tree.file text) ∈ es := by
  have hname : IsFileName originFile := by decide
  have hfind : files.find (originPath dir) = (es.lookup originFile).elim (.error .notFound) .ok :=
    Tree.find_join hrooms hname
  have hmem : ∀ text, (originFile, Tree.file text) ∈ es ↔
      es.lookup originFile = some (.file text) := fun text =>
    mem_iff_lookup_eq (hvalid.of_find hrooms).1
  simp only [hmem]
  rw [Tree.isFile, hfind]
  cases es.lookup originFile with
  | none => simp
  | some t => cases t <;> simp

lemma verify_of_missingRooms (h : ∀ es, files.find (join dir roomsName) ≠ .ok (.directory es)) :
    verify files dir = .error (.missingRooms dir) := by
  have hdir : files.isDirectory (join dir roomsName) = false := by
    rw [← Bool.not_eq_true, isDirectory_iff, not_exists]
    exact h
  rw [verify, hdir]
  rfl

lemma verify_of_missingOrigin (hvalid : files.IsValid)
    (hrooms : files.find (join dir roomsName) = .ok (.directory es))
    (h : ∀ text, (originFile, Tree.file text) ∉ es) :
    verify files dir = .error (.missingOrigin dir) := by
  have hdir := isDirectory_iff.2 ⟨es, hrooms⟩
  have hfile : files.isFile (originPath dir) = false := by
    rw [← Bool.not_eq_true, isFile_originPath_iff hvalid hrooms, not_exists]
    exact h
  rw [verify, hdir, hfile]
  rfl

lemma verify_of_isLaidOut (hvalid : files.IsValid) (hes : IsLaidOut files dir es) :
    verify files dir = .ok () := by
  have hdir := isDirectory_iff.2 ⟨es, hes.rooms⟩
  have hfile := (isFile_originPath_iff hvalid hes.rooms).2 hes.origin
  rw [verify, hdir, hfile]
  rfl

/-! ### The stages of compiling -/

lemma result_compile_of_verify_eq_error (h : verify files dir = .error e) :
    (compile files dir emojis).result = .error e := by
  rw [compile, h]
  rfl

/-- A project is laid out, or its layout is what is wrong with it. -/
lemma isFirstDefect_or_isLaidOut (hvalid : files.IsValid) (dir : String) :
    (∃ e, (compile files dir emojis).result = .error e ∧ IsFirstDefect emojis files dir e) ∨
      ∃ es, IsLaidOut files dir es := by
  by_cases hrooms : ∃ es, files.find (join dir roomsName) = .ok (.directory es)
  · obtain ⟨es, hes⟩ := hrooms
    by_cases horigin : ∃ text, (originFile, Tree.file text) ∈ es
    · exact .inr ⟨es, hes, horigin⟩
    · have hmissing := verify_of_missingOrigin hvalid hes (not_exists.1 horigin)
      exact .inl ⟨_, result_compile_of_verify_eq_error hmissing,
        .missingOrigin hes (not_exists.1 horigin)⟩
  · have hmissing := verify_of_missingRooms (not_exists.1 hrooms)
    exact .inl ⟨_, result_compile_of_verify_eq_error hmissing, .missingRooms (not_exists.1 hrooms)⟩

/-- The number of rooms and items is logged, and the game is the result. -/
def report (game : Game.Data) : Logged Defect Game.Data := do
  .tell .info ("compiled " ++ toString game.rooms.length ++ " room(s) with " ++
    toString (itemCount game) ++ " item(s)")
  return game

/-- The room files among the entries of a directory are read behind the settings. -/
lemma compile_of_isLaidOut (hvalid : files.IsValid) (hes : IsLaidOut files dir es) :
    compile files dir emojis = (Settings.load files dir).mapError .settings >>= fun settings =>
      readRooms (Markdown.renderWith emojis settings.markdown) files (roomPaths dir es) >>= report := by
  have hcollect : collect files (join dir roomsName) = .ok (roomPaths dir es) := by
    rw [collect, hes.rooms]
    rfl
  rw [compile, verify_of_isLaidOut hvalid hes, hcollect]
  rfl

lemma result_bind_report (x : Logged Defect Game.Data) : (x >>= report).result = x.result := by
  rw [Logged.result_bind]
  cases x.result <;> rfl

/-- What compiling gives, without its log. -/
lemma result_compile_of_isLaidOut (hvalid : files.IsValid) (hes : IsLaidOut files dir es) :
    (compile files dir emojis).result =
      (Settings.load files dir).result.mapError .settings >>= fun settings =>
        (mergeRooms (Markdown.renderWith emojis settings.markdown) files.readText (roomPaths dir es)).result := by
  rw [compile_of_isLaidOut hvalid hes, Logged.result_bind]
  simp only [result_bind_report, readRooms_eq_mergeRooms]
  rfl

/-! ### Room files -/

section IsLaidOut

variable (hvalid : files.IsValid) (hes : IsLaidOut files dir es)

include hvalid hes

lemma isFileName_of_hasRoomFile (hfile : HasRoomFile es file text) : IsFileName file :=
  (hvalid.of_find hes.rooms).2 _ hfile.mem

/-- A room file that is listed is read under its path. -/
lemma readText_roomPath (hfile : HasRoomFile es file text) :
    files.readText (roomPath dir file) = text.elim (.error .notText) .ok := by
  have hlookup : es.lookup file = some (.file text) :=
    (mem_iff_lookup_eq (hvalid.of_find hes.rooms).1).1 hfile.mem
  have hfind : files.find (roomPath dir file) = .ok (.file text) := by
    rw [roomPath, Tree.find_join hes.rooms (isFileName_of_hasRoomFile hvalid hes hfile),
      hlookup]
    rfl
  rw [Tree.readText, hfind]
  cases text <;> rfl

lemma stem_roomPath (hfile : HasRoomFile es file text) : stem (roomPath dir file) = stem file :=
  stem_join _ (isFileName_of_hasRoomFile hvalid hes hfile)

lemma loads_roomPath_iff (hfile : HasRoomFile es file text) {room : Game.Room} :
    Loads render files.readText (roomPath dir file) room ↔ HoldsRoom render file text room := by
  rw [Loads, HoldsRoom, readText_roomPath hvalid hes hfile, stem_roomPath hvalid hes hfile]
  cases text <;> simp

/-- The file at the path of a listed room file is rejected exactly for what is wrong with this file.
-/
lemma rejects_roomPath_iff (hfile : HasRoomFile es file text) :
    Rejects render files.readText (roomPath dir file) e ↔
      IsRoomFileDefect render dir file text e := by
  have hread := readText_roomPath hvalid hes hfile
  have hstem := stem_roomPath hvalid hes hfile
  constructor
  · rintro (h | ⟨h, hd⟩)
    · rw [hread] at h
      cases text with
      | none =>
        cases h
        exact .notText
      | some cs => cases h
    · rw [hread] at h
      rw [hstem] at hd
      cases text with
      | none => cases h
      | some cs =>
        cases h
        exact .roomFile hd
  · rintro (_ | hd)
    · exact .unreadable hread
    · exact .roomFile hread (hstem ▸ hd)

/-! ### Rooms -/

lemma map_stem_roomPaths : (roomPaths dir es).map stem = (roomFileNames es).map stem := by
  rw [roomPaths, List.map_map]
  apply List.map_congr_left
  intro file hfile
  obtain ⟨text, htext⟩ := mem_roomFileNames_iff.1 hfile
  exact stem_roomPath hvalid hes htext

/-- Different room files have different stems, since all have the same extension. -/
lemma stem_inj_of_isLaidOut {file' : String} {text' : Option (List Char)}
    (hfile : HasRoomFile es file text) (hfile' : HasRoomFile es file' text')
    (h : stem file = stem file') : file = file' :=
  eq_of_stem_eq (isFileName_of_hasRoomFile hvalid hes hfile)
    (isFileName_of_hasRoomFile hvalid hes hfile') hfile.extension_eq hfile'.extension_eq h

/-- No two room files have the same stem. -/
lemma nodup_map_stem : ((roomPaths dir es).map stem).Nodup := by
  rw [map_stem_roomPaths hvalid hes]
  have hsorted := pairwise_roomFileNames (hvalid.of_find hes.rooms).1
  refine List.Nodup.map_on ?_ (hsorted.imp String.ne_of_lt)
  intro file hfile file' hfile' h
  obtain ⟨text, htext⟩ := mem_roomFileNames_iff.1 hfile
  obtain ⟨text', htext'⟩ := mem_roomFileNames_iff.1 hfile'
  exact stem_inj_of_isLaidOut hvalid hes htext htext' h

/-- The game of the room files has a room for each of them. -/
theorem hasRoomsOf_of_mergeRooms
    (h : (mergeRooms render files.readText (roomPaths dir es)).result = .ok game) :
    HasRoomsOf render es game := by
  have hnodup := nodup_map_stem hvalid hes
  refine ⟨fun _ _ _ _ => stem_inj_of_isLaidOut hvalid hes, ?_, ?_⟩
  · have hnames : game.names.Nodup := game.sorted.imp String.ne_of_lt
    have hperm : game.names.Perm ((roomPaths dir es).map stem) := by
      rw [List.perm_ext_iff_of_nodup hnames hnodup]
      exact fun name => mem_names_of_mergeRooms h
    rw [map_stem_roomPaths hvalid hes] at hperm
    exact hperm.trans ((roomFileNames_perm es).map stem)
  · intro file text hfile
    have hpath : roomPath dir file ∈ roomPaths dir es :=
      List.mem_map_of_mem (mem_roomFileNames_iff.2 ⟨text, hfile⟩)
    obtain ⟨room, hroom, hfind⟩ := find?_of_mergeRooms_of_nodup h hnodup hpath
    rw [stem_roomPath hvalid hes hfile] at hfind
    exact ⟨room, (loads_roomPath_iff hvalid hes hfile).1 hroom, hfind⟩

/-- The first room file that holds no room decides how reading the room files fails. -/
theorem mergeRooms_roomPaths_eq_error_iff :
    (mergeRooms render files.readText (roomPaths dir es)).result = .error e ↔
      ∃ file text, HasRoomFile es file text ∧
        (∀ file' text', HasRoomFile es file' text' → Text.bytes file' < Text.bytes file →
          ∃ room, HoldsRoom render file' text' room) ∧
        IsRoomFileDefect render dir file text e := by
  have hsorted := pairwise_roomFileNames (hvalid.of_find hes.rooms).1
  -- The names are in ascending order, so the files in front are those with smaller names.
  rw [mergeRooms_eq_error_iff, roomPaths, exists_map_eq_append_iff]
  simp only [exists_append_iff_of_pairwise hsorted]
  constructor
  · rintro ⟨file, ⟨hmem, hsmaller⟩, he⟩
    obtain ⟨text, hfile⟩ := mem_roomFileNames_iff.1 hmem
    refine ⟨file, text, hfile, fun file' text' hfile' hlt => ?_,
      (rejects_roomPath_iff hvalid hes hfile).1 he⟩
    obtain ⟨room, hroom⟩ := hsmaller file' (mem_roomFileNames_iff.2 ⟨text', hfile'⟩)
      (Text.lt_iff_bytes_lt.2 hlt)
    exact ⟨room, (loads_roomPath_iff hvalid hes hfile').1 hroom⟩
  · rintro ⟨file, text, hfile, hsmaller, he⟩
    refine ⟨file, ⟨mem_roomFileNames_iff.2 ⟨text, hfile⟩, fun file' hfile' hlt => ?_⟩,
      (rejects_roomPath_iff hvalid hes hfile).2 he⟩
    obtain ⟨text', hfile'⟩ := mem_roomFileNames_iff.1 hfile'
    obtain ⟨room, hroom⟩ := hsmaller file' text' hfile' (Text.lt_iff_bytes_lt.1 hlt)
    exact ⟨room, (loads_roomPath_iff hvalid hes hfile').2 hroom⟩

end IsLaidOut

/-! ### Defects -/

/-- A project does not compile exactly if something is wrong with it, and then the first such thing
is the one that is reported. -/
theorem compile_eq_error_iff_isFirstDefect (hvalid : files.IsValid) :
    (compile files dir emojis).result = .error e ↔ IsFirstDefect emojis files dir e := by
  constructor
  · -- The layout is checked before the settings, and these before any room file.
    intro h
    rcases isFirstDefect_or_isLaidOut hvalid dir with ⟨e', he', hdefect⟩ | ⟨es, hes⟩
    · rw [he'] at h
      cases h
      exact hdefect
    · rw [result_compile_of_isLaidOut hvalid hes, bind_eq_error_iff] at h
      rcases h with h | ⟨settings, hsettings, h⟩
      · obtain ⟨d, hd, rfl⟩ := mapError_eq_error_iff.1 h
        exact .settings hes hd
      · obtain ⟨file, text, hfile, hsmaller, he⟩ :=
          (mergeRooms_roomPaths_eq_error_iff hvalid hes).1 h
        exact .roomFile hes (mapError_eq_ok_iff.1 hsettings) hfile hsmaller he
  · intro h
    cases h with
    | missingRooms hrooms => exact result_compile_of_verify_eq_error (verify_of_missingRooms hrooms)
    | missingOrigin hrooms horigin =>
      exact result_compile_of_verify_eq_error (verify_of_missingOrigin hvalid hrooms horigin)
    | settings hes hd =>
      rw [result_compile_of_isLaidOut hvalid hes, hd]
      rfl
    | roomFile hes hsettings hfile hsmaller he =>
      rw [result_compile_of_isLaidOut hvalid hes, hsettings]
      exact (mergeRooms_roomPaths_eq_error_iff hvalid hes).2 ⟨_, _, hfile, hsmaller, he⟩

/-! ### Games -/

lemma isQuiet_load (files : Tree) (dir : String) : (Settings.load files dir).IsQuiet := by
  unfold Settings.load
  dsimp only
  split
  · exact (Logged.isQuiet_tell (by simp) _).bind fun _ => Logged.isQuiet_ofExcept _
  · exact Logged.isQuiet_ofExcept _
  · exact (Logged.isQuiet_ofExcept _).bind fun _ => (Logged.isQuiet_tell (by simp) _).bind fun _ =>
      Logged.isQuiet_ofExcept _

/-- A project that compiles is laid out, and the game is that of its room files. -/
lemma exists_isLaidOut_of_compile (hvalid : files.IsValid)
    (h : (compile files dir emojis).result = .ok game) :
    ∃ es settings, IsLaidOut files dir es ∧ (Settings.load files dir).result = .ok settings ∧
      (mergeRooms (Markdown.renderWith emojis settings.markdown) files.readText (roomPaths dir es)).result =
        .ok game := by
  rcases isFirstDefect_or_isLaidOut hvalid dir with ⟨e', he', -⟩ | ⟨es, hes⟩
  · rw [he'] at h
    cases h
  · rw [result_compile_of_isLaidOut hvalid hes] at h
    obtain ⟨settings, hsettings, hgame⟩ := bind_eq_ok_iff.1 h
    exact ⟨es, settings, hes, mapError_eq_ok_iff.1 hsettings, hgame⟩

/-- A project that compiles does so without any warning. -/
theorem warnings_compile (hvalid : files.IsValid) (h : (compile files dir emojis).result = .ok game) :
    (compile files dir emojis).warnings = [] := by
  obtain ⟨es, settings, hes, hsettings, hgame⟩ := exists_isLaidOut_of_compile hvalid h
  have hrepeated := repeated_eq_nil_iff.2 (nodup_map_stem hvalid hes)
  rw [compile_of_isLaidOut hvalid hes,
    Logged.warnings_bind_of_ok (Logged.result_mapError_eq_ok_iff.2 hsettings),
    ((isQuiet_load files dir).mapError _).warnings_eq_nil, readRooms_eq_mergeRooms,
    Logged.warnings_bind_of_ok hgame, warnings_mergeRooms hgame, hrepeated]
  rfl

/-- A game of a project has the room in which the player starts. -/
lemma originRoom_mem_names (hes : IsLaidOut files dir es) (h : HasRoomsOf render es game) :
    Game.originRoom ∈ game.names := by
  obtain ⟨text, htext⟩ := hes.origin
  have hext : extension? originFile = some roomExtension := by decide
  have hstem : stem originFile = Game.originRoom := by decide
  obtain ⟨room, -, hfind⟩ := h.rooms originFile text ⟨htext, hext⟩
  rw [hstem] at hfind
  exact Game.Data.mem_names_iff.2 ⟨room, hfind⟩

/-! ### Listings in another order -/

lemma verify_relists (h : files.Relists files') (dir : String) :
    verify files' dir = verify files dir := by
  rw [verify, verify, h.isDirectory, h.isFile]

lemma load_relists (h : files.Relists files') (dir : String) :
    Settings.load files' dir = Settings.load files dir := by
  rw [Settings.load, Settings.load, h.readText]

/-- The order of the listings matters neither for the result nor for the log. -/
theorem compile_relists (hvalid : files.IsValid) (h : files.Relists files') (dir : String)
    (emojis : Markdown.Emojis) :
    compile files' dir emojis = compile files dir emojis := by
  have hread : files'.readText = files.readText := funext h.readText
  unfold compile
  rw [verify_relists h, load_relists h, collect_relists hvalid h]
  simp only [readRooms_eq_mergeRooms, hread]

/-! ### Projects in any order -/

/-- A compiled project has exactly the rooms of its room files, each read with the settings of the
project, and no file takes the place of another one. There is a room to start in. A project that does
not compile fails for the first thing that is wrong with it. The order in which its directories list
their entries does not matter. -/
theorem compile_has_exactly_rooms (emojis : Markdown.Emojis) (hvalid : files.IsValid)
    (dir : String) :
    (∀ game, (compile files dir emojis).result = .ok game →
      (∃ es settings, IsLaidOut files dir es ∧
        (Settings.load files dir).result = .ok settings ∧
        HasRoomsOf (Markdown.renderWith emojis settings.markdown) es game) ∧
      (compile files dir emojis).warnings = [] ∧
      Game.originRoom ∈ game.names ∧ .missingOrigin ∉ game.lints) ∧
    (∀ e, (compile files dir emojis).result = .error e ↔ IsFirstDefect emojis files dir e) ∧
    ∀ files', files.Relists files' → compile files' dir emojis = compile files dir emojis := by
  refine ⟨fun game h => ?_, fun e => compile_eq_error_iff_isFirstDefect hvalid,
    fun files' hrelists => compile_relists hvalid hrelists dir emojis⟩
  obtain ⟨es, settings, hes, hsettings, hgame⟩ := exists_isLaidOut_of_compile hvalid h
  have hrooms := hasRoomsOf_of_mergeRooms hvalid hes hgame
  have horigin := originRoom_mem_names hes hrooms
  refine ⟨⟨es, settings, hes, hsettings, hrooms⟩, warnings_compile hvalid h, horigin, ?_⟩
  rw [Game.Data.missingOrigin_mem_lints_iff, not_not]
  exact horigin

/-- A name with two dots, a hidden file, and a directory that is named like a room file. -/
theorem compile_has_exactly_rooms_hall :
    let text := "\n".intercalate ["---", "---", "x"]
    let es : List (String × Tree) := [(".md", .file none),
      ("drafts.md", .directory [("attic.md", .file none)]), ("old.hall.md", .file text.toList),
      ("origin.md", .file text.toList)]
    let files : Tree := .directory [("rooms", .directory es)]
    let files' : Tree := .directory [("rooms", .directory es.reverse)]
    ∃ game, (compile files "").result = .ok game ∧ (compile files' "").result = .ok game ∧
      game.names.Perm ["old.hall", "origin"] ∧ (compile files "").warnings = [] := by
  intro text es files files'
  have hvalid : files.IsValid := by
    have hdrafts : (Tree.directory [("attic.md", .file none)]).IsValid :=
      .directory (by decide) (by decide) (by simp [Tree.isValid_file])
    refine .directory (by decide) (by decide) ?_
    simp only [List.mem_singleton, forall_eq]
    refine .directory (by decide) (by decide) ?_
    simp [es, Tree.isValid_file, hdrafts]
  have hrelists : files.Relists files' := by
    refine Tree.relists_directory_iff.2 ⟨.refl _, fun name t t' ht ht' => ?_⟩
    have hes : (Tree.directory es).Relists (Tree.directory es.reverse) :=
      .of_perm (by decide) (List.reverse_perm es).symm
    simp only [List.lookup_cons, List.lookup_nil] at ht ht'
    split at ht <;> simp_all
  have hes : IsLaidOut files "" es := by
    have hresolve : files.resolve (join "" roomsName) = .ok ["rooms"] := by decide
    refine ⟨Tree.find_of_resolve_eq_ok hresolve, some text.toList, ?_⟩
    simp [es, originFile, Game.originRoom, roomExtension]
  have hnames : (es.filter isRoomFile).map Prod.fst = ["old.hall.md", "origin.md"] := by decide
  obtain ⟨hgames, -, horder⟩ := compile_has_exactly_rooms Markdown.knownEmojis hvalid ""
  obtain ⟨game, hgame⟩ : ∃ game, (compile files "").result = .ok game := by
    have hsorted : roomFileNames es = ["old.hall.md", "origin.md"] := by
      rw [roomFileNames, hnames]
      exact List.mergeSort_of_pairwise (by decide)
    rw [← failure?_eq_none_iff, result_compile_of_isLaidOut hvalid hes, roomPaths, hsorted]
    decide +kernel
  obtain ⟨⟨es', settings, hes', hsettings, hrooms⟩, hwarnings, -⟩ := hgames game hgame
  refine ⟨game, hgame, ?_, ?_, hwarnings⟩
  · rw [horder files' hrelists, hgame]
  · have heq := hes'.rooms
    rw [hes.rooms] at heq
    cases heq
    have hperm := hrooms.names
    rw [hnames] at hperm
    exact hperm

end Adventure.Project
