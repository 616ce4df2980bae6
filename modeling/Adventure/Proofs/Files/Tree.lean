import Adventure.Files.Tree
import Adventure.Proofs.Computation
import Adventure.Proofs.Files.Path
import Adventure.Proofs.Repeats

/-!
# Files in a tree

What lies at the path of a name in a directory is the entry of that name. The order in which the
directories of a tree list their entries does not matter for what lies where.

* `find_join` : the entries of a directory.
* `Relists`, `relists_directory_iff` : a tree that lists its directories in another order.
* `Relists.find` : what such a tree has at a path.
-/

namespace Adventure.Files.Tree

variable {root root' : Tree} {here : List String} {es es' : List (String × Tree)}
  {dir name path : String}

/-- In every directory the names are distinct, and they are names that files may have. -/
def IsValid (root : Tree) : Prop :=
  ∀ here es, root.at? here = some (.directory es) →
    (es.map Prod.fst).Nodup ∧ ∀ e ∈ es, IsFileName e.1

lemma isValid_file (text : Option (List Char)) : (file text).IsValid := by
  intro here es h
  cases here <;> simp [at?] at h

lemma IsValid.directory (hnodup : (es.map Prod.fst).Nodup) (hnames : ∀ e ∈ es, IsFileName e.1)
    (hbelow : ∀ e ∈ es, e.2.IsValid) : (Tree.directory es).IsValid := by
  intro here es' h
  cases here with
  | nil =>
    rw [at?] at h
    cases h
    exact ⟨hnodup, hnames⟩
  | cons name here =>
    rw [at?] at h
    obtain ⟨t, ht, h⟩ := Option.bind_eq_some_iff.1 h
    exact hbelow (name, t) ((mem_iff_lookup_eq hnodup).2 ht) here es' h

/-! ### Places -/

/-- To go down two lists of names is to go down one after the other. -/
lemma at?_append (root : Tree) (here below : List String) :
    root.at? (here ++ below) = (root.at? here).bind fun t => t.at? below := by
  induction here generalizing root with
  | nil => rw [List.nil_append, at?, Option.bind_some]
  | cons n ns ih =>
    cases root with
    | file text => rfl
    | directory es =>
      rw [List.cons_append, at?, at?, Option.bind_assoc]
      simp only [ih]

lemma at?_append_singleton (h : root.at? here = some (.directory es)) (name : String) :
    root.at? (here ++ [name]) = es.lookup name := by
  rw [at?_append, h, Option.bind_some, at?]
  cases es.lookup name <;> simp [at?]

/-! ### Paths -/

/-- An empty name on the way does not matter. -/
lemma enter_empty_bind (root : Tree) (here : List String) (name : String) :
    (root.enter here "" >>= fun here => root.enter here name) = root.enter here name := by
  unfold enter
  split
  · rfl
  · rfl
  · next es hes => simp [hes, isHere, bind, Except.bind]

/-- A name in a directory is one step from where the path of the directory leads. -/
lemma resolve_join (root : Tree) (dir : String) (h : '/' ∉ name.toList) :
    root.resolve (join dir name) = root.resolve dir >>= fun here => root.enter here name := by
  obtain ⟨names, hdir, hjoin⟩ := exists_components_join dir h
  have hlast : ∀ n : String, (names ++ [n]).foldlM root.enter [] =
      names.foldlM root.enter [] >>= fun here => root.enter here n := by
    intro n
    rw [List.foldlM_append]
    simp
  rw [resolve, resolve, hjoin, hlast]
  rcases hdir with hdir | hdir
  · rw [hdir]
  · rw [hdir, hlast, bind_assoc]
    simp only [enter_empty_bind]

lemma find_of_resolve_eq_error {problem : Problem} (h : root.resolve path = .error problem) :
    root.find path = .error problem := by
  rw [find, h]
  rfl

lemma find_of_resolve_eq_ok (h : root.resolve path = .ok here) :
    root.find path = (root.at? here).elim (.error .notFound) .ok := by
  simp only [find, h, bind, Except.bind]
  cases root.at? here <;> rfl

/-- What is found at a path lies below a list of names. -/
lemma exists_of_find {t : Tree} (h : root.find path = .ok t) :
    ∃ here, root.resolve path = .ok here ∧ root.at? here = some t := by
  cases hpath : root.resolve path with
  | error problem =>
    rw [find_of_resolve_eq_error hpath] at h
    cases h
  | ok here =>
    rw [find_of_resolve_eq_ok hpath] at h
    cases hhere : root.at? here with
    | none =>
      rw [hhere] at h
      cases h
    | some t' =>
      rw [hhere] at h
      exact ⟨here, rfl, hhere.trans (congrArg some (Except.ok.inj h))⟩

lemma IsValid.of_find (hvalid : root.IsValid) (h : root.find path = .ok (.directory es)) :
    (es.map Prod.fst).Nodup ∧ ∀ e ∈ es, IsFileName e.1 := by
  obtain ⟨here, -, hes⟩ := exists_of_find h
  exact hvalid here es hes

/-- What lies at the path of a name in a directory is the entry of the name. -/
theorem find_join (hdir : root.find dir = .ok (.directory es)) (h : IsFileName name) :
    root.find (join dir name) = (es.lookup name).elim (.error .notFound) .ok := by
  obtain ⟨here, hhere, hes⟩ := exists_of_find hdir
  have henter : root.resolve (join dir name) =
      if (es.lookup name).isSome then .ok (here ++ [name]) else .error .notFound := by
    rw [resolve_join root dir h.no_slash, hhere]
    show root.enter here name = _
    simp [enter, hes, h.not_here, h.ne_parent]
  cases hname : es.lookup name with
  | none =>
    rw [hname] at henter
    exact find_of_resolve_eq_error henter
  | some t =>
    rw [hname] at henter
    rw [find_of_resolve_eq_ok henter, at?_append_singleton hes, hname]

/-! ### The order of listings -/

/-- The same file, directories that list the same names, or nothing at all. -/
inductive Alike : Option Tree → Option Tree → Prop
  | nothing : Alike none none
  | file (text : Option (List Char)) : Alike (some (.file text)) (some (.file text))
  | directory {es es' : List (String × Tree)} (h : (es.map Prod.fst).Perm (es'.map Prod.fst)) :
      Alike (some (.directory es)) (some (.directory es'))

lemma Alike.eq_file_iff {t t' : Option Tree} (h : Alike t t') {text : Option (List Char)} :
    t' = some (.file text) ↔ t = some (.file text) := by
  cases h with
  | nothing | file text' => rfl
  | directory _ => simp

/-- The trees are the same but for the order in which their directories list the entries. -/
def Relists (root root' : Tree) : Prop :=
  ∀ here, Alike (root.at? here) (root'.at? here)

lemma isSome_lookup_iff {name : String} : (es.lookup name).isSome = true ↔ name ∈ es.map Prod.fst := by
  rw [List.lookup_isSome_iff, List.mem_map]
  simp only [beq_iff_eq, @eq_comm _ name]

lemma isSome_lookup_congr (h : (es.map Prod.fst).Perm (es'.map Prod.fst)) (name : String) :
    (es.lookup name).isSome = (es'.lookup name).isSome := by
  rw [Bool.eq_iff_iff, isSome_lookup_iff, isSome_lookup_iff, h.mem_iff]

/-- Directories are listed in another order if their entries are, and if everything below is. -/
theorem relists_directory_iff :
    (directory es).Relists (directory es') ↔
      (es.map Prod.fst).Perm (es'.map Prod.fst) ∧
      ∀ name t t', es.lookup name = some t → es'.lookup name = some t' → t.Relists t' := by
  constructor
  · intro h
    refine ⟨?_, fun name t t' ht ht' here => ?_⟩
    · cases h [] with
      | directory hperm => exact hperm
    · have hhere := h (name :: here)
      rw [at?, at?, ht, ht'] at hhere
      exact hhere
  · rintro ⟨hperm, h⟩ here
    cases here with
    | nil =>
      rw [at?, at?]
      exact .directory hperm
    | cons name here =>  -- the name is missing from both or from none
      rw [at?, at?]
      have hlookup := isSome_lookup_congr hperm name
      cases ht : es.lookup name with
      | none =>
        cases ht' : es'.lookup name with
        | none => exact .nothing
        | some t' => simp [ht, ht'] at hlookup
      | some t =>
        cases ht' : es'.lookup name with
        | none => simp [ht, ht'] at hlookup
        | some t' => exact h name t t' ht ht' here

namespace Relists

lemma refl (root : Tree) : root.Relists root := by
  intro here
  cases root.at? here with
  | none => exact .nothing
  | some t =>
    cases t with
    | file text => exact .file text
    | directory es => exact .directory (.refl _)

lemma of_perm (hnodup : (es.map Prod.fst).Nodup) (h : es.Perm es') :
    (Tree.directory es).Relists (Tree.directory es') := by
  have hnodup' : (es'.map Prod.fst).Nodup := (h.map Prod.fst).nodup_iff.1 hnodup
  refine relists_directory_iff.2 ⟨h.map Prod.fst, fun name t t' ht ht' => ?_⟩
  have hmem : (name, t) ∈ es' := h.mem_iff.1 ((mem_iff_lookup_eq hnodup).2 ht)
  obtain rfl : t = t' := Option.some.inj (((mem_iff_lookup_eq hnodup').1 hmem).symm.trans ht')
  exact refl t

/-- A step leads to the same place in a tree that lists its directories in another order. -/
lemma enter (h : root.Relists root') (here : List String) (name : String) :
    root'.enter here name = root.enter here name := by
  have hhere := h here
  unfold Tree.enter
  generalize root.at? here = t at hhere
  generalize root'.at? here = t' at hhere
  cases hhere with
  | nothing => rfl
  | file text => rfl
  | @directory es es' hperm =>
    dsimp only
    rw [isSome_lookup_congr hperm name]

lemma resolve (h : root.Relists root') (path : String) :
    root'.resolve path = root.resolve path := by
  have henter : root'.enter = root.enter := funext fun here => funext fun name => h.enter here name
  rw [Tree.resolve, Tree.resolve, henter]

/-- At every path there is the same problem, or what lies there is alike. -/
theorem find (h : root.Relists root') (path : String) :
    (∃ problem, root.find path = .error problem ∧ root'.find path = .error problem) ∨
    ∃ here t t', root.at? here = some t ∧ root'.at? here = some t' ∧
      root.find path = .ok t ∧ root'.find path = .ok t' := by
  cases hpath : root.resolve path with
  | error problem =>
    have hpath' : root'.resolve path = .error problem := by rw [h.resolve, hpath]
    exact .inl ⟨problem, find_of_resolve_eq_error hpath, find_of_resolve_eq_error hpath'⟩
  | ok here =>
    have hpath' : root'.resolve path = .ok here := by rw [h.resolve, hpath]
    have hhere := h here
    rw [find_of_resolve_eq_ok hpath, find_of_resolve_eq_ok hpath']
    cases ht : root.at? here with
    | none =>
      cases ht' : root'.at? here with
      | none => exact .inl ⟨.notFound, rfl, rfl⟩
      | some t' =>
        rw [ht, ht'] at hhere
        cases hhere
    | some t =>
      cases ht' : root'.at? here with
      | none =>
        rw [ht, ht'] at hhere
        cases hhere
      | some t' => exact .inr ⟨here, t, t', ht, ht', rfl, rfl⟩

/-- Nothing but the entries of a directory may tell the trees apart. -/
lemma find_eq_or (h : root.Relists root') (path : String) :
    root'.find path = root.find path ∨
    ∃ es es', root.find path = .ok (.directory es) ∧ root'.find path = .ok (.directory es') := by
  rcases h.find path with ⟨problem, hfind, hfind'⟩ | ⟨here, t, t', ht, ht', hfind, hfind'⟩
  · exact .inl (hfind'.trans hfind.symm)
  · have hhere := h here
    rw [ht, ht'] at hhere
    cases hhere with
    | file text => exact .inl (hfind'.trans hfind.symm)
    | directory _ => exact .inr ⟨_, _, hfind, hfind'⟩

lemma isDirectory (h : root.Relists root') (path : String) :
    root'.isDirectory path = root.isDirectory path := by
  rcases h.find_eq_or path with heq | ⟨es, es', hes, hes'⟩
  · rw [Tree.isDirectory, heq, Tree.isDirectory]
  · rw [Tree.isDirectory, hes', Tree.isDirectory, hes]

lemma isFile (h : root.Relists root') (path : String) : root'.isFile path = root.isFile path := by
  rcases h.find_eq_or path with heq | ⟨es, es', hes, hes'⟩
  · rw [Tree.isFile, heq, Tree.isFile]
  · rw [Tree.isFile, hes', Tree.isFile, hes]

lemma readText (h : root.Relists root') (path : String) :
    root'.readText path = root.readText path := by
  rcases h.find_eq_or path with heq | ⟨es, es', hes, hes'⟩
  · rw [Tree.readText, heq, Tree.readText]
  · rw [Tree.readText, hes', Tree.readText, hes]
    rfl

end Relists

end Adventure.Files.Tree
