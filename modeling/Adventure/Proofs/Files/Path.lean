import Adventure.Files.Path
import Mathlib.Data.List.TakeWhile
import Mathlib.Tactic.Common

/-!
# Names in paths

The path of a name in a directory has the names of the directory and then this one, whether or not
the directory is written with a slash at its end.

* `exists_components_join` : the names of a path in a directory.
* `stem_join` : the stem of a file is that of its name.
* `splitName_eq_iff` : a name is split at its last dot, unless it starts with this one.
* `eq_of_stem_eq` : files with the same extension are told apart by their stems.
-/

namespace Adventure.Files

variable {name : String}

/-! ### Names of files -/

/-- A name that a file may have. -/
structure IsFileName (name : String) : Prop where
  not_here : isHere name = false
  ne_parent : name ≠ ".."
  no_slash : '/' ∉ name.toList

instance : Decidable (IsFileName name) :=
  decidable_of_iff (isHere name = false ∧ name ≠ ".." ∧ '/' ∉ name.toList)
    ⟨fun h => ⟨h.1, h.2.1, h.2.2⟩, fun h => ⟨h.1, h.2, h.3⟩⟩

/-! ### Names of a path -/

lemma components_of_notMem (h : '/' ∉ name.toList) : components name = [name] := by
  have hsplit : name.toList.splitOn '/' = [name.toList] := by
    apply List.splitOnP_eq_singleton
    intro c hc
    rw [beq_eq_false_iff_ne]
    exact fun heq => h (heq ▸ hc)
  rw [components, hsplit, List.map_singleton, String.ofList_toList]

/-- A slash sets the names of two paths apart. -/
lemma components_append_slash (dir name : String) :
    components (dir ++ "/" ++ name) = components dir ++ components name := by
  have happ : (dir ++ "/" ++ name).toList = dir.toList ++ '/' :: name.toList := by
    simp
  rw [components, happ, List.splitOn, List.splitOnP_append_cons _ _ (by simp), List.map_append]
  rfl

/-- The names of a path in a directory are those of the directory and then this one. The directory
may end in an empty name, which is left out. -/
lemma exists_components_join (dir : String) (h : '/' ∉ name.toList) :
    ∃ names, (components dir = names ∨ components dir = names ++ [""]) ∧
      components (join dir name) = names ++ [name] := by
  unfold join
  split
  · next hnil =>  -- nothing is put in front of the name
    rw [List.getLast?_eq_none_iff, String.toList_eq_nil_iff] at hnil
    subst hnil
    exact ⟨[], .inr (by decide), components_of_notMem h⟩
  · next c hc =>
    split_ifs with hslash
    · -- The directory ends in a slash, and its last component is empty.
      subst hslash
      obtain ⟨cs, hcs⟩ := List.getLast?_eq_some_iff.1 hc
      have hdir : dir = String.ofList cs ++ "/" := by
        rw [← String.toList_inj, hcs]
        simp
      have hempty : dir = String.ofList cs ++ "/" ++ "" := by
        rw [hdir]
        simp
      refine ⟨components (String.ofList cs), .inr ?_, ?_⟩
      · rw [hempty, components_append_slash]
        rfl
      · rw [hdir, components_append_slash, components_of_notMem h]
    · exact ⟨components dir, .inl rfl, by rw [components_append_slash, components_of_notMem h]⟩

/-- A path that ends in a file name leads to a file of this name. -/
lemma fileName?_join (dir : String) (h : IsFileName name) :
    fileName? (join dir name) = some name := by
  obtain ⟨names, -, hnames⟩ := exists_components_join dir h.no_slash
  have hlast : ((names ++ [name]).filter fun c => !isHere c) =
      (names.filter fun c => !isHere c) ++ [name] := by
    rw [List.filter_append]
    simp [h.not_here]
  rw [fileName?, hnames, hlast, List.getLast?_concat]
  simp [Option.filter, h.ne_parent]

lemma fileName?_of_isFileName (h : IsFileName name) : fileName? name = some name :=
  fileName?_join "" h

/-- The stem of a file is that of its name. -/
theorem stem_join (dir : String) (h : IsFileName name) : stem (join dir name) = stem name := by
  rw [stem, stem, fileName?_join dir h, fileName?_of_isFileName h]

/-! ### Extensions -/

/-- What stands behind the last dot of a name. -/
def afterDot (name : String) : List Char :=
  (name.toList.reverse.takeWhile (· ≠ '.')).reverse

/-- What stands in front of the last dot of a name. -/
def beforeDot (name : String) : List Char :=
  name.toList.take (name.toList.length - (afterDot name).length - 1)

/-- A name is split at its last dot, unless nothing stands in front of it. -/
lemma splitName_eq (name : String) :
    splitName name =
      if beforeDot name = [] then (name, none)
      else (String.ofList (beforeDot name), some (String.ofList (afterDot name))) := by
  show (if (beforeDot name).isEmpty = true then _ else _) = _
  simp only [List.isEmpty_iff]
  rfl

lemma afterDot_eq {name : String} {pre post : List Char} (h : name.toList = pre ++ '.' :: post)
    (hpost : '.' ∉ post) : afterDot name = post := by
  have hrev : name.toList.reverse = post.reverse ++ '.' :: pre.reverse := by
    simp [h]
  rw [afterDot, hrev, List.takeWhile_append_of_pos]
  · simp
  · intro c hc
    have hne : c ≠ '.' := fun heq => hpost (heq ▸ List.mem_reverse.1 hc)
    simpa using hne

lemma beforeDot_eq {name : String} {pre post : List Char} (h : name.toList = pre ++ '.' :: post)
    (hpost : '.' ∉ post) : beforeDot name = pre := by
  have hlen : (pre ++ '.' :: post).length - post.length - 1 = pre.length := by
    rw [List.length_append, List.length_cons]
    omega
  rw [beforeDot, afterDot_eq h hpost, h, hlen, List.take_left]

lemma beforeDot_of_notMem (h : '.' ∉ name.toList) : beforeDot name = [] := by
  have hafter : afterDot name = name.toList := by
    rw [afterDot, List.takeWhile_eq_self_iff.2, List.reverse_reverse]
    intro c hc
    have hne : c ≠ '.' := fun heq => h (heq ▸ List.mem_reverse.1 hc)
    simpa using hne
  rw [beforeDot, hafter, Nat.sub_self, Nat.zero_sub, List.take_zero]

/-- A name is split at its last dot, unless it starts with this one. -/
theorem splitName_eq_iff {before after : String} :
    splitName name = (before, some after) ↔
      before ≠ "" ∧ name = before ++ "." ++ after ∧ '.' ∉ after.toList := by
  constructor
  · intro h
    rw [splitName_eq] at h
    split_ifs at h with hnil
    · cases h
    · cases h
      have hmem : '.' ∈ name.toList := by
        by_contra hmem
        exact hnil (beforeDot_of_notMem hmem)
      -- The last dot is the first one from behind.
      obtain ⟨post, pre, hrev, hpost⟩ := List.eq_append_cons_of_mem (List.mem_reverse.2 hmem)
      have hname : name.toList = pre.reverse ++ '.' :: post.reverse := by
        rw [← List.reverse_reverse name.toList, hrev]
        simp
      have hpost' : '.' ∉ post.reverse := by simpa using hpost
      rw [beforeDot_eq hname hpost'] at hnil
      rw [beforeDot_eq hname hpost', afterDot_eq hname hpost']
      refine ⟨by simpa using hnil, ?_, by simpa using hpost⟩
      rw [← String.toList_inj, hname]
      simp
  · rintro ⟨hbefore, rfl, hafter⟩
    have hname : (before ++ "." ++ after).toList = before.toList ++ '.' :: after.toList := by
      simp
    rw [splitName_eq, beforeDot_eq hname hafter, afterDot_eq hname hafter, if_neg (by simpa)]
    simp

/-- A file is its stem with the extension behind it. -/
lemma eq_stem_append {extension : String} (h : IsFileName name)
    (hext : extension? name = some extension) : name = stem name ++ "." ++ extension := by
  have hstem : stem name = (splitName name).1 := by
    rw [stem, fileName?_of_isFileName h]
    rfl
  have hsplit : splitName name = (stem name, some extension) := by
    rw [hstem, ← hext]
    rfl
  exact (splitName_eq_iff.1 hsplit).2.1

/-- The stem of a name with an extension is what stands in front of the last dot. -/
lemma stem_append {before extension : String} (h : IsFileName (before ++ "." ++ extension))
    (hbefore : before ≠ "") (hext : '.' ∉ extension.toList) :
    stem (before ++ "." ++ extension) = before := by
  rw [stem, fileName?_of_isFileName h, Option.elim_some, splitName_eq_iff.2 ⟨hbefore, rfl, hext⟩]

/-- Files with the same extension are told apart by their stems. -/
theorem eq_of_stem_eq {name' extension : String} (h : IsFileName name) (h' : IsFileName name')
    (hext : extension? name = some extension) (hext' : extension? name' = some extension)
    (hstem : stem name = stem name') : name = name' := by
  rw [eq_stem_append h hext, eq_stem_append h' hext', hstem]

end Adventure.Files
