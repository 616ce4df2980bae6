import Adventure.Project.Compile
import Adventure.Proofs.Files.Tree

/-!
# The room files of a project

The room files are the files with the extension of room files that lie directly in the directory of
room files. They are read in ascending order, in whatever order the directory lists them.

* `mem_roomFileNames_iff`, `pairwise_roomFileNames` : which files there are, and their order.
* `collect_relists` : the order of the listing does not matter.
-/

namespace Adventure.Project

open Files

variable {files files' : Tree} {es es' : List (String × Tree)} {file : String}

/-- Among the entries of a directory there is the room file `file`, with its text if it has one. -/
structure HasRoomFile (es : List (String × Tree)) (file : String) (text : Option (List Char)) :
    Prop where
  mem : (file, Tree.file text) ∈ es
  extension_eq : extension? file = some roomExtension

/-! ### Which files there are -/

lemma isRoomFile_iff {e : String × Tree} :
    isRoomFile e = true ↔ extension? e.1 = some roomExtension ∧ ∃ text, e.2 = .file text := by
  obtain ⟨file, t⟩ := e
  cases t <;> simp [isRoomFile]

lemma mem_map_filter_iff :
    file ∈ (es.filter isRoomFile).map Prod.fst ↔ ∃ text, HasRoomFile es file text := by
  constructor
  · intro h
    obtain ⟨⟨_, t⟩, he, rfl⟩ := List.mem_map.1 h
    obtain ⟨hmem, hfile⟩ := List.mem_filter.1 he
    obtain ⟨hext, text, rfl⟩ := isRoomFile_iff.1 hfile
    exact ⟨text, hmem, hext⟩
  · rintro ⟨text, hmem, hext⟩
    exact List.mem_map.2 ⟨_, List.mem_filter.2 ⟨hmem, isRoomFile_iff.2 ⟨hext, text, rfl⟩⟩, rfl⟩

lemma roomFileNames_perm (es : List (String × Tree)) :
    (roomFileNames es).Perm ((es.filter isRoomFile).map Prod.fst) :=
  List.mergeSort_perm _ _

/-- The room files are the files among the entries that have the extension of room files. -/
theorem mem_roomFileNames_iff : file ∈ roomFileNames es ↔ ∃ text, HasRoomFile es file text := by
  rw [(roomFileNames_perm es).mem_iff, mem_map_filter_iff]

lemma nodup_map_filter (h : (es.map Prod.fst).Nodup) :
    ((es.filter isRoomFile).map Prod.fst).Nodup :=
  h.sublist (List.filter_sublist.map Prod.fst)

/-! ### Their order -/

lemma not_decide_lt_iff {a b : String} : (!decide (b < a)) = true ↔ a ≤ b := by
  rw [Bool.not_eq_true', decide_eq_false_iff_not, String.not_lt]

lemma pairwise_le_mergeSort (names : List String) :
    (names.mergeSort fun a b => !(b < a)).Pairwise (· ≤ ·) := by
  have hsorted : (names.mergeSort fun a b => !(b < a)).Pairwise fun a b => (!(b < a)) = true := by
    apply List.pairwise_mergeSort
    · intro a b c hab hbc
      rw [not_decide_lt_iff] at hab hbc ⊢
      exact String.le_trans hab hbc
    · intro a b
      rw [Bool.or_eq_true, not_decide_lt_iff, not_decide_lt_iff]
      exact String.le_total a b
  exact hsorted.imp not_decide_lt_iff.1

/-- The room files are listed in strictly ascending order. -/
theorem pairwise_roomFileNames (h : (es.map Prod.fst).Nodup) :
    (roomFileNames es).Pairwise (· < ·) := by
  have hnodup : (roomFileNames es).Nodup := (roomFileNames_perm es).nodup_iff.2 (nodup_map_filter h)
  refine (pairwise_le_mergeSort _).imp₂ (fun a b hle hne => ?_) hnodup
  by_contra hlt
  exact hne (String.le_antisymm hle (String.not_lt.1 hlt))

/-- In a list in strictly ascending order, the elements in front of another one are the smaller
ones. -/
lemma exists_append_iff_of_pairwise {names : List String} (h : names.Pairwise (· < ·))
    {p : String → Prop} :
    (∃ pre post, names = pre ++ file :: post ∧ ∀ x ∈ pre, p x) ↔
      file ∈ names ∧ ∀ x ∈ names, x < file → p x := by
  constructor
  · rintro ⟨pre, post, rfl, hpre⟩
    refine ⟨by simp, fun x hx hlt => ?_⟩
    rcases List.mem_append.1 hx with hx | hx
    · exact hpre x hx
    · have hle := List.pairwise_cons.1 (List.pairwise_append.1 h).2.1
      rcases List.mem_cons.1 hx with rfl | hx
      · exact absurd hlt (String.lt_irrefl _)
      · exact absurd hlt (String.lt_asymm (hle.1 x hx))
  · rintro ⟨hfile, hsmaller⟩
    obtain ⟨pre, post, rfl⟩ := List.append_of_mem hfile
    refine ⟨pre, post, rfl, fun x hx => hsmaller x (List.mem_append_left _ hx) ?_⟩
    exact (List.pairwise_append.1 h).2.2 x hx file List.mem_cons_self

/-- The first element of an image with the property `q` is the image of one element, and the images
of those in front of it have the property `p`. -/
lemma exists_map_eq_append_iff {α β : Type} {f : α → β} {as : List α} {p q : β → Prop} :
    (∃ pre b post, as.map f = pre ++ b :: post ∧ (∀ x ∈ pre, p x) ∧ q b) ↔
      ∃ a, (∃ pre post, as = pre ++ a :: post ∧ ∀ x ∈ pre, p (f x)) ∧ q (f a) := by
  constructor
  · rintro ⟨pre, b, post, happ, hpre, hb⟩
    obtain ⟨pre, rest, rfl, rfl, hrest⟩ := List.map_eq_append_iff.1 happ
    obtain ⟨a, post, rfl, rfl, -⟩ := List.map_eq_cons_iff.1 hrest
    exact ⟨a, ⟨pre, post, rfl, fun x hx => hpre _ (List.mem_map_of_mem hx)⟩, hb⟩
  · rintro ⟨a, ⟨pre, post, rfl, hpre⟩, ha⟩
    refine ⟨pre.map f, f a, post.map f, by rw [List.map_append, List.map_cons], ?_, ha⟩
    intro x hx
    obtain ⟨a', ha', rfl⟩ := List.mem_map.1 hx
    exact hpre a' ha'

/-! ### Listings in another order -/

lemma roomFileNames_eq (h : (roomFileNames es).Perm (roomFileNames es')) :
    roomFileNames es = roomFileNames es' :=
  h.eq_of_pairwise (fun _ _ _ _ hab hba => String.le_antisymm hab hba) (pairwise_le_mergeSort _)
    (pairwise_le_mergeSort _)

lemma hasRoomFile_iff (h : (es.map Prod.fst).Nodup) {text : Option (List Char)} :
    HasRoomFile es file text ↔
      es.lookup file = some (.file text) ∧ extension? file = some roomExtension := by
  rw [← mem_iff_lookup_eq h (e := (file, Tree.file text))]
  exact ⟨fun h => ⟨h.mem, h.extension_eq⟩, fun h => ⟨h.1, h.2⟩⟩

/-- The entries of a directory, in whatever order they are listed, have the same room files. -/
lemma roomFileNames_relists {here : List String} (hvalid : files.IsValid)
    (h : files.Relists files') (hes : files.at? here = some (.directory es))
    (hes' : files'.at? here = some (.directory es')) : roomFileNames es' = roomFileNames es := by
  have hperm : (es.map Prod.fst).Perm (es'.map Prod.fst) := by
    have hhere := h here
    rw [hes, hes'] at hhere
    cases hhere with
    | directory hperm => exact hperm
  have hnodup := (hvalid here es hes).1
  have hnodup' : (es'.map Prod.fst).Nodup := hperm.nodup_iff.1 hnodup
  apply roomFileNames_eq
  refine (roomFileNames_perm es').trans (.trans ?_ (roomFileNames_perm es).symm)
  rw [List.perm_ext_iff_of_nodup (nodup_map_filter hnodup') (nodup_map_filter hnodup)]
  intro file
  rw [mem_map_filter_iff, mem_map_filter_iff]
  refine exists_congr fun text => ?_
  rw [hasRoomFile_iff hnodup, hasRoomFile_iff hnodup']
  refine and_congr_left fun _ => ?_
  rw [← Tree.at?_append_singleton hes, ← Tree.at?_append_singleton hes']
  exact (h (here ++ [file])).eq_file_iff

/-- The order of the listing does not matter for the paths of the room files. -/
theorem collect_relists (hvalid : files.IsValid) (h : files.Relists files') (dir : String) :
    collect files' dir = collect files dir := by
  rcases h.find dir with ⟨problem, hfind, hfind'⟩ | ⟨here, t, t', ht, ht', hfind, hfind'⟩
  · rw [collect, collect, hfind, hfind']
  · rw [collect, collect, hfind, hfind']
    have hhere := h here
    rw [ht, ht'] at hhere
    cases hhere with
    | file text => rfl
    | directory hperm =>
      dsimp only
      rw [roomFileNames_relists hvalid h ht ht']

end Adventure.Project
