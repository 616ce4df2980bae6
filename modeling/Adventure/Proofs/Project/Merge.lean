import Adventure.Project.Compile
import Adventure.Proofs.Computation
import Adventure.Proofs.Game.Map

/-!
# Rooms of several files

The rooms of files are read one file after the other. The last file of each name wins, with a
warning for every file that takes the place of an earlier one, and there is a game only if every
file has a room.

* `result_mergeRooms` : the game is that of the list of rooms, in the order of the files.
* `warnings_mergeRooms` : the warnings are those of the files that repeat a name.
* `mergeRooms_last_wins` : which game there is, when there is none, and how it depends on the order.
-/

namespace Adventure

/-! ### Reading a room file logs no warning -/

namespace RoomFile

open Logged

variable {render : Render} {place : ItemPlace} {name : String}

lemma isQuiet_compileActions (actions : List String) :
    (Draft.compileActions render actions).IsQuiet := by
  intro r hr
  obtain ⟨call, -, rfl⟩ := List.mem_map.1 hr
  simp

lemma isQuiet_compileUsedWith (u : Draft.UsedWith) : (u.compile render).IsQuiet := by
  unfold Draft.UsedWith.compile
  split
  · exact isQuiet_ofExcept _
  · split
    · exact isQuiet_ofExcept _
    · exact ((isQuiet_compileActions _).mapError _).bind fun _ => isQuiet_ofExcept _

lemma isQuiet_readUsedWith (item : String) (v : Yaml.Value) :
    (readUsedWith render place item v).IsQuiet := by
  unfold readUsedWith
  split
  · exact isQuiet_ofExcept _
  · exact (isQuiet_ofExcept _).bind fun _ => (isQuiet_ofExcept _).bind fun _ =>
      (isQuiet_compileUsedWith _).mapError _

lemma isQuiet_readItem (v : Yaml.Value) : (readItem render place v).IsQuiet := by
  unfold readItem
  split
  · exact isQuiet_ofExcept _
  · exact (isQuiet_ofExcept _).bind fun _ => (isQuiet_ofExcept _).bind fun _ =>
      (IsQuiet.mapM (isQuiet_readUsedWith _) _).bind fun _ => isQuiet_ofExcept _

lemma isQuiet_readItemsOf (es : List (Yaml.Value × Yaml.Value)) :
    (readItemsOf render place es).IsQuiet :=
  (isQuiet_ofExcept _).bind fun _ => IsQuiet.mapM isQuiet_readItem _

lemma isQuiet_readItems (items : Option Yaml.Value) : (readItems render name items).IsQuiet := by
  unfold readItems
  split
  · exact isQuiet_ofExcept _
  · exact isQuiet_ofExcept _
  · exact (isQuiet_readItemsOf _).bind fun _ => (isQuiet_readItemsOf _).bind fun _ =>
      isQuiet_ofExcept _
  · exact isQuiet_ofExcept _

lemma isQuiet_readRoom (metadata : Metadata) (body : List Char) :
    (readRoom render name metadata body).IsQuiet :=
  (isQuiet_readItems _).bind fun _ => (isQuiet_tell (by simp [itemsRecord]) _).bind fun _ =>
    isQuiet_ofExcept _

lemma isQuiet_read (text : List Char) : (read render name text).IsQuiet := by
  unfold read
  split
  · exact isQuiet_ofExcept _
  · exact (isQuiet_ofExcept _).bind fun _ => isQuiet_readRoom _ _

end RoomFile

namespace Project

open Files

variable {render : RoomFile.Render} {contents : String → Except Problem (List Char)}
  {paths : List String} {path : String}

/-! ### Files -/

/-- The file at the path holds a room. -/
def Loads (render : RoomFile.Render) (contents : String → Except Problem (List Char))
    (path : String) (room : Game.Room) : Prop :=
  ∃ text, contents path = .ok text ∧ (RoomFile.read render (stem path) text).result = .ok room

/-- The file at the path holds no room: there is no text, or it is not that of a room. -/
inductive Rejects (render : RoomFile.Render) (contents : String → Except Problem (List Char))
    (path : String) : Defect → Prop
  | unreadable {problem : Problem} (h : contents path = .error problem) :
      Rejects render contents path (.unreadable path problem)
  | roomFile {text : List Char} {d : RoomFile.Defect} (h : contents path = .ok text)
      (hd : (RoomFile.read render (stem path) text).result = .error d) :
      Rejects render contents path (.roomFile path d)

/-- The room of the file at a path, with its name. -/
def load (render : RoomFile.Render) (contents : String → Except Problem (List Char))
    (path : String) : Except Defect (String × Game.Room) := do
  let text ← (contents path).mapError (.unreadable path)
  let room ← (RoomFile.read render (stem path) text).result.mapError (.roomFile path)
  return (stem path, room)

lemma load_eq_ok_iff {r : String × Game.Room} :
    load render contents path = .ok r ↔ r.1 = stem path ∧ Loads render contents path r.2 := by
  obtain ⟨name, room⟩ := r
  simp only [load, bind_eq_ok_iff, mapError_eq_ok_iff, pure_eq_ok_iff, Prod.mk.injEq]
  constructor
  · rintro ⟨text, htext, room, hroom, rfl, rfl⟩
    exact ⟨rfl, text, htext, hroom⟩
  · rintro ⟨rfl, text, htext, hroom⟩
    exact ⟨text, htext, room, hroom, rfl, rfl⟩

/-- Loading a file fails exactly if the file is rejected, and for the same reason. -/
lemma load_eq_error_iff {e : Defect} :
    load render contents path = .error e ↔ Rejects render contents path e := by
  simp only [load, bind_eq_error_iff, mapError_eq_error_iff, mapError_eq_ok_iff, pure_ne_error,
    and_false, exists_false, or_false]
  constructor
  · rintro (⟨problem, h, rfl⟩ | ⟨text, h, d, hd, rfl⟩)
    · exact .unreadable h
    · exact .roomFile h hd
  · rintro (h | ⟨h, hd⟩)
    · exact .inl ⟨_, h, rfl⟩
    · exact .inr ⟨_, h, _, hd, rfl⟩

lemma failure?_load_eq_none_iff :
    failure? (load render contents path) = none ↔ ∃ room, Loads render contents path room := by
  rw [failure?_eq_none_iff]
  constructor
  · rintro ⟨r, hr⟩
    exact ⟨r.2, (load_eq_ok_iff.1 hr).2⟩
  · rintro ⟨room, hroom⟩
    exact ⟨(stem path, room), load_eq_ok_iff.2 ⟨rfl, hroom⟩⟩

/-! ### Merging -/

/-- Adds the room of a file, whatever holds the files. -/
def mergeFile (render : RoomFile.Render) (contents : String → Except Problem (List Char))
    (game : Game.Data) (path : String) : Logged Defect Game.Data := do
  let text ← .check (.unreadable path) (contents path)
  let name := stem path
  let room ← (RoomFile.read render name text).mapError (.roomFile path)
  .tell .debug ("compiled room '" ++ name ++ "' from " ++ path)
  if game.contains name then
    .tell .warning ("room '" ++ name ++ "' defined more than once; " ++ path ++ " wins")
  return game.insert name room

/-- The rooms of files, whatever holds the files. -/
def mergeRooms (render : RoomFile.Render) (contents : String → Except Problem (List Char))
    (paths : List String) : Logged Defect Game.Data :=
  paths.foldlM (mergeFile render contents) .empty

lemma readRooms_eq_mergeRooms (render : RoomFile.Render) (files : Tree) (paths : List String) :
    readRooms render files paths = mergeRooms render files.readText paths :=
  rfl

/-- Whether a file takes the place of an earlier one does not matter for the result, apart from the
warning. -/
lemma result_mergeFile (game : Game.Data) (path : String) :
    (mergeFile render contents game path).result =
      (fun r => game.insert r.1 r.2) <$> load render contents path := by
  unfold mergeFile load
  rw [Logged.result_bind]
  show ((contents path).mapError _ >>= _) = _
  cases contents path with
  | error problem => rfl
  | ok text =>
    refine (Logged.result_bind _ _).trans ?_
    show ((RoomFile.read render (stem path) text).result.mapError _ >>= _) =
      _ <$> ((RoomFile.read render (stem path) text).result.mapError _ >>= _)
    cases (RoomFile.read render (stem path) text).result with
    | error d => rfl
    | ok room =>
      dsimp only [Except.mapError]
      split_ifs <;> rfl

/-- The game is that of the list of rooms. -/
theorem result_mergeRooms (render : RoomFile.Render)
    (contents : String → Except Problem (List Char)) (paths : List String) :
    (mergeRooms render contents paths).result =
      Game.Data.ofList <$> paths.mapM (load render contents) :=
  Logged.result_foldlM result_mergeFile paths .empty

/-- Files are merged exactly if each of them holds a room. The game is that of the list of rooms. -/
lemma mergeRooms_eq_ok_iff {game : Game.Data} :
    (mergeRooms render contents paths).result = .ok game ↔
      ∃ rooms, paths.mapM (load render contents) = .ok rooms ∧ Game.Data.ofList rooms = game := by
  rw [result_mergeRooms, map_eq_ok_iff]

lemma exists_game_iff :
    (∃ game, (mergeRooms render contents paths).result = .ok game) ↔
      ∀ p ∈ paths, ∃ room, Loads render contents p room := by
  rw [← failure?_eq_none_iff, result_mergeRooms, failure?_map, failure?_mapM,
    List.findSome?_eq_none_iff]
  simp only [failure?_load_eq_none_iff]

/-- The first file that holds no room decides how reading fails. -/
lemma mergeRooms_eq_error_iff {e : Defect} :
    (mergeRooms render contents paths).result = .error e ↔
      ∃ pre p post, paths = pre ++ p :: post ∧ (∀ q ∈ pre, ∃ room, Loads render contents q room) ∧
        Rejects render contents p e := by
  rw [result_mergeRooms, ← failure?_eq_some_iff, failure?_map, failure?_mapM,
    List.findSome?_eq_some_iff]
  simp only [failure?_eq_some_iff, load_eq_error_iff, failure?_load_eq_none_iff]
  constructor
  · rintro ⟨pre, p, post, happ, hp, hpre⟩
    exact ⟨pre, p, post, happ, hpre, hp⟩
  · rintro ⟨pre, p, post, happ, hpre, hp⟩
    exact ⟨pre, p, post, happ, hp, hpre⟩

/-! ### The rooms of a game -/

variable {game : Game.Data}

lemma map_fst_of_mapM_load {rooms : List (String × Game.Room)}
    (h : paths.mapM (load render contents) = .ok rooms) : rooms.map Prod.fst = paths.map stem := by
  replace h := mapM_eq_ok_iff.1 h
  induction h with
  | nil => rfl
  | cons hr _ ih => rw [List.map_cons, List.map_cons, (load_eq_ok_iff.1 hr).1, ih]

/-- The rooms of one name come from the files of this stem, in the same order. -/
lemma mapM_load_filter {rooms : List (String × Game.Room)}
    (h : paths.mapM (load render contents) = .ok rooms) (name : String) :
    (paths.filter fun p => stem p = name).mapM (load render contents) =
      .ok (rooms.filter fun r => r.1 = name) := by
  rw [mapM_eq_ok_iff] at h ⊢
  refine List.rel_filter ?_ h
  intro p r hr
  simp only [(load_eq_ok_iff.1 hr).1]

lemma mem_names_of_mergeRooms (h : (mergeRooms render contents paths).result = .ok game)
    {name : String} : name ∈ game.names ↔ name ∈ paths.map stem := by
  obtain ⟨rooms, hrooms, rfl⟩ := mergeRooms_eq_ok_iff.1 h
  rw [Game.Data.mem_names_ofList, map_fst_of_mapM_load hrooms]

lemma exists_of_mem_rooms (h : (mergeRooms render contents paths).result = .ok game)
    {r : String × Game.Room} (hr : r ∈ game.rooms) :
    ∃ p ∈ paths, r.1 = stem p ∧ Loads render contents p r.2 := by
  obtain ⟨rooms, hrooms, rfl⟩ := mergeRooms_eq_ok_iff.1 h
  obtain ⟨p, hp, hload⟩ :=
    exists_of_forall₂_of_mem (mapM_eq_ok_iff.1 hrooms) (Game.Data.mem_of_mem_ofList hr)
  exact ⟨p, hp, load_eq_ok_iff.1 hload⟩

/-- The rooms of later files take the place of those of earlier ones. -/
lemma mergeRooms_append {later : List String} {game' : Game.Data}
    (h : (mergeRooms render contents paths).result = .ok game)
    (h' : (mergeRooms render contents later).result = .ok game') :
    ∃ both, (mergeRooms render contents (paths ++ later)).result = .ok both ∧
      ∀ name, both.find? name = (game'.find? name).or (game.find? name) := by
  obtain ⟨rooms, hrooms, rfl⟩ := mergeRooms_eq_ok_iff.1 h
  obtain ⟨rooms', hrooms', rfl⟩ := mergeRooms_eq_ok_iff.1 h'
  refine ⟨.ofList (rooms ++ rooms'), mergeRooms_eq_ok_iff.2 ⟨_, ?_, rfl⟩,
    Game.Data.find?_ofList_append rooms rooms'⟩
  rw [List.mapM_append, hrooms, hrooms']
  rfl

/-- The last file of a name holds the room of that name. -/
lemma find?_of_mergeRooms (h : (mergeRooms render contents paths).result = .ok game)
    {pre post : List String} (happ : paths = pre ++ path :: post)
    (hpost : ∀ q ∈ post, stem q ≠ stem path) :
    ∃ room, Loads render contents path room ∧ game.find? (stem path) = some room := by
  obtain ⟨rooms, hrooms, rfl⟩ := mergeRooms_eq_ok_iff.1 h
  rw [happ, List.mapM_append, List.mapM_cons] at hrooms
  simp only [bind_eq_ok_iff, pure_eq_ok_iff] at hrooms
  obtain ⟨earlier, -, _, ⟨r, hr, later, hlater, rfl⟩, rfl⟩ := hrooms
  obtain ⟨hname, hroom⟩ := load_eq_ok_iff.1 hr
  -- No later file has the name, so that the room of this one is the last of its name.
  have hnone : later.filter (fun r => r.1 = stem path) = [] := by
    rw [List.filter_eq_nil_iff]
    intro s hs
    have hmem := List.mem_map_of_mem (f := Prod.fst) hs
    rw [map_fst_of_mapM_load hlater] at hmem
    obtain ⟨q, hq, hqs⟩ := List.mem_map.1 hmem
    simpa [← hqs] using hpost q hq
  refine ⟨r.2, hroom, ?_⟩
  rw [Game.Data.find?_ofList, List.filter_append, List.filter_cons_of_pos (by simpa using hname),
    hnone, List.getLast?_concat]
  rfl

/-- Where all names are distinct, each file holds the room of its name. -/
lemma find?_of_mergeRooms_of_nodup (h : (mergeRooms render contents paths).result = .ok game)
    (hnodup : (paths.map stem).Nodup) (hpath : path ∈ paths) :
    ∃ room, Loads render contents path room ∧ game.find? (stem path) = some room := by
  obtain ⟨pre, post, rfl⟩ := List.append_of_mem hpath
  refine find?_of_mergeRooms h rfl fun q hq heq => ?_
  rw [List.map_append, List.map_cons] at hnodup
  have hnotMem := (List.nodup_cons.1 (List.nodup_append.1 hnodup).2.1).1
  exact hnotMem (heq ▸ List.mem_map_of_mem hq)

/-- Files of different names may change places. -/
lemma mergeRooms_eq_of_filter_eq {paths' : List String}
    (h : (mergeRooms render contents paths).result = .ok game)
    (hpaths : ∀ name,
      (paths'.filter fun p => stem p = name) = paths.filter fun p => stem p = name) :
    (mergeRooms render contents paths').result = .ok game := by
  have hload : ∀ p ∈ paths', ∃ room, Loads render contents p room := by
    intro p hp
    have hmem : p ∈ paths.filter fun q => stem q = stem p := by
      rw [← hpaths]
      exact List.mem_filter.2 ⟨hp, by simp⟩
    exact exists_game_iff.1 ⟨game, h⟩ p (List.mem_filter.1 hmem).1
  obtain ⟨game', h'⟩ := exists_game_iff.2 hload
  -- Under each name both games have the room of the last file of that name.
  rw [h']
  congr 1
  obtain ⟨rooms, hrooms, rfl⟩ := mergeRooms_eq_ok_iff.1 h
  obtain ⟨rooms', hrooms', rfl⟩ := mergeRooms_eq_ok_iff.1 h'
  apply Game.Data.ext_find?
  intro name
  have hfilter := mapM_load_filter hrooms' name
  rw [hpaths, mapM_load_filter hrooms] at hfilter
  rw [Game.Data.find?_ofList, Game.Data.find?_ofList, Except.ok.inj hfilter]

/-! ### Warnings -/

/-- The files whose name an earlier file has. -/
def repeated (paths : List String) : List String :=
  (paths.zipIdx.filter fun p => stem p.1 ∈ (paths.take p.2).map stem).map Prod.fst

/-- The warning about a file that takes the place of an earlier one. -/
def repeatedRecord (path : String) : LogRecord :=
  ⟨.warning, "room '" ++ stem path ++ "' defined more than once; " ++ path ++ " wins"⟩

lemma repeated_eq (paths : List String) : repeated paths = (repeats stem paths).map Prod.fst :=
  rfl

lemma repeated_append_singleton (paths : List String) (path : String) :
    repeated (paths ++ [path]) =
      repeated paths ++ if stem path ∈ paths.map stem then [path] else [] := by
  rw [repeated_eq, repeats_append_singleton, List.map_append, repeated_eq]
  split_ifs <;> rfl

lemma repeated_eq_nil_iff : repeated paths = [] ↔ (paths.map stem).Nodup := by
  rw [repeated_eq, List.map_eq_nil_iff, repeats_eq_nil_iff]

/-- There is a warning exactly if the name is taken. -/
lemma warnings_mergeFile {room : Game.Room} (h : Loads render contents path room) :
    (mergeFile render contents game path).warnings =
      if stem path ∈ game.names then [repeatedRecord path] else [] := by
  obtain ⟨text, htext, hroom⟩ := h
  unfold mergeFile
  rw [Logged.warnings_bind_of_ok (Logged.result_check_eq_ok_iff.2 htext)]
  dsimp only
  rw [Logged.warnings_bind_of_ok (Logged.result_mapError_eq_ok_iff.2 hroom),
    ((RoomFile.isQuiet_read text).mapError _).warnings_eq_nil]
  by_cases hname : stem path ∈ game.names
  · rw [if_pos (Game.Data.contains_iff.2 hname), if_pos hname]
    rfl
  · rw [if_neg fun h => hname (Game.Data.contains_iff.1 h), if_neg hname]
    rfl

lemma mergeRooms_append_singleton (paths : List String) (path : String) :
    mergeRooms render contents (paths ++ [path]) =
      mergeRooms render contents paths >>= fun game => mergeFile render contents game path := by
  unfold mergeRooms
  rw [List.foldlM_append]
  simp

/-- There is a warning for each file whose name an earlier file has, and no other warning. -/
theorem warnings_mergeRooms (h : (mergeRooms render contents paths).result = .ok game) :
    (mergeRooms render contents paths).warnings = (repeated paths).map repeatedRecord := by
  induction paths using List.reverseRecOn generalizing game with
  | nil => rfl
  | append_singleton paths path ih =>
    -- The last file finds its name among those of the game of all files in front of it.
    rw [mergeRooms_append_singleton] at h ⊢
    obtain ⟨g, hg, hfile⟩ := Logged.result_bind_eq_ok_iff.1 h
    rw [result_mergeFile] at hfile
    obtain ⟨r, hr, -⟩ := map_eq_ok_iff.1 hfile
    rw [Logged.warnings_bind_of_ok hg, ih hg, warnings_mergeFile (load_eq_ok_iff.1 hr).2,
      repeated_append_singleton, List.map_append]
    simp only [mem_names_of_mergeRooms hg]
    split_ifs <;> rfl

/-! ### The game of several files -/

/-- The rooms of files are merged, whatever holds the files. There is a game if and only if every
file holds a room; otherwise the first file that holds none decides how reading fails. The names in
the game are those of the files, and each leads to the room of the last file of the name. There is a
warning for each file whose name an earlier file has. The rooms of later files take the place of
those of earlier ones, and files of different names may change places. -/
theorem mergeRooms_last_wins (render : RoomFile.Render)
    (contents : String → Except Problem (List Char)) (paths : List String) :
    (∀ files : Tree, readRooms render files paths = mergeRooms render files.readText paths) ∧
    ((∃ game, (mergeRooms render contents paths).result = .ok game) ↔
      ∀ p ∈ paths, ∃ room, Loads render contents p room) ∧
    (∀ e, (mergeRooms render contents paths).result = .error e ↔
      ∃ pre p post, paths = pre ++ p :: post ∧ (∀ q ∈ pre, ∃ room, Loads render contents q room) ∧
        Rejects render contents p e) ∧
    ∀ game, (mergeRooms render contents paths).result = .ok game →
      (∀ name, name ∈ game.names ↔ name ∈ paths.map stem) ∧
      (∀ pre p post, paths = pre ++ p :: post → (∀ q ∈ post, stem q ≠ stem p) →
        ∃ room, Loads render contents p room ∧ game.find? (stem p) = some room) ∧
      (mergeRooms render contents paths).warnings = (repeated paths).map repeatedRecord ∧
      (∀ later game', (mergeRooms render contents later).result = .ok game' →
        ∃ both, (mergeRooms render contents (paths ++ later)).result = .ok both ∧
          ∀ name, both.find? name = (game'.find? name).or (game.find? name)) ∧
      ∀ paths' : List String,
        (∀ name, (paths'.filter fun p => stem p = name) = paths.filter fun p => stem p = name) →
        (mergeRooms render contents paths').result = .ok game := by
  refine ⟨fun files => readRooms_eq_mergeRooms render files paths, exists_game_iff,
    fun e => mergeRooms_eq_error_iff, ?_⟩
  intro game h
  refine ⟨fun name => mem_names_of_mergeRooms h, ?_, warnings_mergeRooms h, ?_, ?_⟩
  · intro pre p post happ hpost
    exact find?_of_mergeRooms h happ hpost
  · intro later game' h'
    exact mergeRooms_append h h'
  · intro paths' hpaths
    exact mergeRooms_eq_of_filter_eq h hpaths

/-- Two halls with an attic between them: the second hall wins, and the attic may come first. -/
theorem mergeRooms_last_wins_hall :
    let first := "\n".intercalate ["---", "---", "first"]
    let second := "\n".intercalate ["---", "---", "second"]
    let files : Tree := .directory [
      ("x", .directory [("hall.md", .file first.toList), ("attic.md", .file first.toList)]),
      ("y", .directory [("hall.md", .file second.toList)])]
    ∃ game, (mergeRooms id files.readText ["x/hall.md", "x/attic.md", "y/hall.md"]).result =
        .ok game ∧
      (mergeRooms id files.readText ["x/attic.md", "x/hall.md", "y/hall.md"]).result = .ok game ∧
      game.find? "hall" = some { description := "second" } ∧
      (mergeRooms id files.readText ["x/hall.md", "x/attic.md", "y/hall.md"]).warnings =
        [repeatedRecord "y/hall.md"] := by
  intro first second files
  obtain ⟨game, hgame⟩ : ∃ game, (mergeRooms id files.readText
      ["x/hall.md", "x/attic.md", "y/hall.md"]).result = .ok game := by
    rw [← failure?_eq_none_iff]
    decide +kernel
  obtain ⟨-, -, -, hmerge⟩ :=
    mergeRooms_last_wins id files.readText ["x/hall.md", "x/attic.md", "y/hall.md"]
  obtain ⟨-, hlast, hwarnings, -, hreorder⟩ := hmerge game hgame
  have hxhall : stem "x/hall.md" = "hall" := by decide
  have hattic : stem "x/attic.md" = "attic" := by decide
  have hyhall : stem "y/hall.md" = "hall" := by decide
  have hrepeated : repeated ["x/hall.md", "x/attic.md", "y/hall.md"] = ["y/hall.md"] := by decide
  refine ⟨game, hgame, hreorder _ ?_, ?_, by rw [hwarnings, hrepeated]; rfl⟩
  · intro name
    by_cases hname : "hall" = name
    · subst hname
      simp [hxhall, hattic, hyhall]
    · simp [List.filter_cons, hxhall, hattic, hyhall, hname]
  · obtain ⟨room, ⟨text, htext, hroom⟩, hfind⟩ := hlast ["x/hall.md", "x/attic.md"] "y/hall.md" []
      rfl (by simp)
    rw [hyhall] at hroom hfind
    have hread : (RoomFile.read id "hall" second.toList).result =
        .ok { description := "second" } := by
      decide +kernel
    obtain rfl : second.toList = text := by
      have : files.readText "y/hall.md" = .ok second.toList := by decide
      exact Except.ok.inj (this.symm.trans htext)
    rw [hfind, Except.ok.inj (hread.symm.trans hroom)]

end Project

end Adventure
