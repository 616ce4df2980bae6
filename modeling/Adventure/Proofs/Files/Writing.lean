import Adventure.Proofs.Files.Tree

/-!
# Writing to a tree

A text that is written to a path is read back from it, and all other files stay as they are. Whether
a path can be written to is a matter of the directories on the way, and not of the text.

* `writeText_eq_ok_iff` : where a text is written.
* `at?_putAt`, `exists_at?_putAt` : what lies where after something is put into a tree.
* `readText_writeText` : a text that is written is read back.
-/

namespace Adventure.Files.Tree

variable {root root' t : Tree} {here place : List String} {es es' : List (String × Tree)}
  {name path : String} {text : List Char}

/-! ### Entries -/

lemma lookup_map_replace (hname : name ∈ es.map Prod.fst) (t : Tree) :
    (es.map fun e => if e.1 = name then (name, t) else e).lookup name = some t := by
  induction es with
  | nil => cases hname
  | cons e es ih =>
    obtain ⟨n, t'⟩ := e
    by_cases hn : n = name
    · simp [hn]
    · have hne : (name == n) = false := beq_eq_false_iff_ne.2 (Ne.symm hn)
      rw [List.map_cons, if_neg hn, List.lookup_cons, hne]
      refine ih ?_
      simpa [Ne.symm hn] using hname

lemma lookup_map_replace_of_ne {n : String} (h : n ≠ name) (t : Tree) :
    (es.map fun e => if e.1 = name then (name, t) else e).lookup n = es.lookup n := by
  induction es with
  | nil => rfl
  | cons e es ih =>
    obtain ⟨m, t'⟩ := e
    by_cases hm : m = name
    · have hne : (n == name) = false := beq_eq_false_iff_ne.2 h
      rw [List.map_cons, if_pos hm, List.lookup_cons, List.lookup_cons, hm, hne, ih]
    · rw [List.map_cons, if_neg hm, List.lookup_cons, List.lookup_cons, ih]

lemma lookup_putEntry (name : String) (t : Tree) (es : List (String × Tree)) :
    (putEntry name t es).lookup name = some t := by
  rw [putEntry]
  split_ifs with h
  · exact lookup_map_replace (isSome_lookup_iff.1 h) t
  · rw [Bool.not_eq_true, Option.isSome_eq_false_iff, Option.isNone_iff_eq_none] at h
    simp [List.lookup_append, h]

/-- An entry that is put into a directory leaves those of other names alone. -/
lemma lookup_putEntry_of_ne {n : String} (h : n ≠ name) (t : Tree) (es : List (String × Tree)) :
    (putEntry name t es).lookup n = es.lookup n := by
  rw [putEntry]
  split_ifs
  · exact lookup_map_replace_of_ne h t
  · have hne : (n == name) = false := beq_eq_false_iff_ne.2 h
    simp [List.lookup_append, List.lookup_cons, hne]

/-- No name disappears. -/
lemma isSome_lookup_putEntry {n : String} (h : (es.lookup n).isSome = true) (t : Tree) :
    ((putEntry name t es).lookup n).isSome = true := by
  by_cases hn : n = name
  · rw [hn, lookup_putEntry]
    rfl
  · rwa [lookup_putEntry_of_ne hn]

/-! ### Places -/

lemma at?_putAt (t : Tree) (place : List String) (root : Tree) :
    (putAt t place root).at? place = some t := by
  induction place generalizing root with
  | nil => rw [putAt, at?]
  | cons n place ih =>
    cases root with
    | file text =>
      rw [putAt, at?, List.lookup_cons_self, Option.bind_some]
      exact ih _
    | directory es =>
      rw [putAt, at?, lookup_putEntry, Option.bind_some]
      exact ih _

/-- The same file, or a directory without any name less. -/
inductive Kept : Tree → Tree → Prop
  | file (text : Option (List Char)) : Kept (.file text) (.file text)
  | directory {es es' : List (String × Tree)}
      (h : ∀ n, (es.lookup n).isSome = true → (es'.lookup n).isSome = true) :
      Kept (.directory es) (.directory es')

lemma Kept.refl (t : Tree) : Kept t t := by
  cases t with
  | file text => exact .file text
  | directory es => exact .directory fun _ h => h

/-- A place for a file: a name in a directory that has no directory of that name. -/
structure IsFree (root : Tree) (here : List String) (name : String) : Prop where
  exists_directory : ∃ es, root.at? here = some (.directory es)
  not_directory : ∀ es, root.at? (here ++ [name]) ≠ some (.directory es)

lemma IsFree.of_cons {n : String} (h : IsFree (.directory es) (n :: here) name) :
    ∃ t, es.lookup n = some t ∧ t.IsFree here name := by
  obtain ⟨⟨es', hes'⟩, hname⟩ := h
  rw [at?] at hes'
  obtain ⟨t, ht, hes'⟩ := Option.bind_eq_some_iff.1 hes'
  refine ⟨t, ht, ⟨es', hes'⟩, fun es'' hes'' => hname es'' ?_⟩
  rw [List.cons_append, at?, ht]
  exact hes''

/-- Everything but what is put into a free place is kept. -/
theorem exists_at?_putAt (hfree : root.IsFree here name) {p : List String}
    (hne : p ≠ here ++ [name]) {u : Tree} (hp : root.at? p = some u) (t : Tree) :
    ∃ u', (putAt t (here ++ [name]) root).at? p = some u' ∧ Kept u u' := by
  induction here generalizing root p with
  | nil =>
    obtain ⟨⟨es, hes⟩, hname⟩ := hfree
    obtain rfl : root = .directory es := by simpa [at?] using hes
    rw [List.nil_append, putAt, putAt]
    cases p with
    | nil =>
      obtain rfl : Tree.directory es = u := by simpa [at?] using hp
      exact ⟨_, by rw [at?], .directory fun n hn => isSome_lookup_putEntry hn t⟩
    | cons m p =>
      rw [at?] at hp ⊢
      obtain ⟨v, hv, hvp⟩ := Option.bind_eq_some_iff.1 hp
      by_cases hm : m = name
      · -- Nothing lies below a file.
        subst hm
        have hfile : ∀ es', v ≠ .directory es' := by
          rintro es' rfl
          exact hname es' (by rw [List.nil_append, at?, hv]; simp [at?])
        cases v with
        | directory es' => exact absurd rfl (hfile es')
        | file text =>
          cases p with
          | nil => exact absurd rfl hne
          | cons _ _ => simp [at?] at hvp
      · rw [lookup_putEntry_of_ne hm, hv]
        exact ⟨u, hvp, .refl u⟩
  | cons n here ih =>
    cases root with
    | file text =>
      obtain ⟨es, hes⟩ := hfree.exists_directory
      simp [at?] at hes
    | directory es =>
      obtain ⟨v, hv, hbelow⟩ := hfree.of_cons
      rw [List.cons_append, putAt, hv, Option.getD_some]
      cases p with
      | nil =>
        obtain rfl : Tree.directory es = u := by simpa [at?] using hp
        exact ⟨_, by rw [at?], .directory fun m hm => isSome_lookup_putEntry hm _⟩
      | cons m p =>
        rw [at?] at hp ⊢
        by_cases hm : m = n
        · subst hm
          rw [lookup_putEntry, Option.bind_some]
          rw [hv, Option.bind_some] at hp
          exact ih hbelow (fun h => hne (congrArg (m :: ·) h)) hp
        · rw [lookup_putEntry_of_ne hm]
          exact ⟨u, hp, .refl u⟩

/-! ### Paths -/

/-- Whoever gets through the directories of a tree gets through those that are kept. -/
lemma enter_of_kept
    (hkept : ∀ u, root.at? here = some u → ∃ u', root'.at? here = some u' ∧ Kept u u')
    {next : List String} (h : root.enter here name = .ok next) :
    root'.enter here name = .ok next := by
  unfold enter at h
  split at h
  · cases h
  · cases h
  · next es hes =>
    obtain ⟨u', hu', hu⟩ := hkept _ hes
    cases hu with
    | directory hnames =>  -- a step asks for the name only, and none is less
      rw [enter, hu']
      dsimp only
      split_ifs at h with hhere hparent hname
      · rw [if_pos hhere]
        exact h
      · rw [if_neg hhere, if_pos hparent]
        exact h
      · rw [if_neg hhere, if_neg hparent, if_pos (hnames name hname)]
        exact h

/-- A way through a tree does not lead through a free place, so it is there afterwards, too. -/
lemma foldlM_enter_putAt (hfree : root.IsFree here name) (t : Tree)
    {names start finish : List String} (h : names.foldlM root.enter start = .ok finish) :
    names.foldlM (putAt t (here ++ [name]) root).enter start = .ok finish := by
  induction names generalizing start with
  | nil => exact h
  | cons n names ih =>
    rw [List.foldlM_cons] at h ⊢
    obtain ⟨next, hnext, h⟩ := bind_eq_ok_iff.1 h
    refine bind_eq_ok_iff.2 ⟨next, enter_of_kept ?_ hnext, ih h⟩
    intro u hu
    refine exists_at?_putAt hfree ?_ hu t
    rintro rfl
    -- At a free place there is no directory to go through.
    rw [enter, hu] at hnext
    cases u with
    | file text => cases hnext
    | directory es => exact hfree.not_directory es hu

/-- The path leads to a free place: to a name in a directory. -/
structure LeadsTo (root : Tree) (path : String) (here : List String) (name : String) : Prop where
  components_eq : components path = (components path).dropLast ++ [name]
  resolves : (components path).dropLast.foldlM root.enter [] = .ok here
  isFree : root.IsFree here name
  isName : isHere name = false ∧ name ≠ ".."

lemma components_eq (path : String) :
    components path = (components path).dropLast ++ [(components path).getLastD ""] := by
  have hne : components path ≠ [] := by
    rw [components, Ne, List.map_eq_nil_iff]
    exact List.splitOn_ne_nil _ _
  rw [List.getLastD_eq_getLast?, List.getLast?_eq_some_getLast hne, Option.getD_some,
    List.dropLast_append_getLast hne]

/-- A text is written to the place to which the path leads, whatever the text. -/
theorem writeText_eq_ok_iff :
    root.writeText path text = .ok root' ↔
      ∃ here name, root.LeadsTo path here name ∧
        root' = putAt (.file (some text)) (here ++ [name]) root := by
  unfold writeText
  simp only [bind_eq_ok_iff]
  constructor
  · rintro ⟨here, hhere, h⟩
    split at h
    · next es hes =>
      split_ifs at h with hname
      · cases h
      · split at h
        · cases h
        · next hfree =>
          simp only [Bool.or_eq_true, beq_iff_eq, not_or, Bool.not_eq_true] at hname
          refine ⟨here, _, ⟨components_eq path, hhere, ⟨⟨es, hes⟩, ?_⟩, hname⟩,
            (pure_eq_ok_iff.1 h).symm⟩
          rw [at?_append_singleton hes]
          exact hfree
    · cases h
  · rintro ⟨here, name, ⟨hcomponents, hhere, ⟨⟨es, hes⟩, hfree⟩, hname, hparent⟩, rfl⟩
    refine ⟨here, hhere, ?_⟩
    have hlast : (components path).getLastD "" = name := by
      rw [hcomponents, List.getLastD_concat]
    rw [at?_append_singleton hes] at hfree
    rw [hlast, hes]
    simp [hname, hparent, pure_eq_ok_iff]

/-! ### Texts -/

/-- A text can be written to the path. -/
def IsWritable (root : Tree) (path : String) : Prop :=
  ∃ text new, root.writeText path text = .ok new

/-- Whether a text can be written does not depend on it. -/
lemma IsWritable.exists_writeText (h : root.IsWritable path) (text : List Char) :
    ∃ new, root.writeText path text = .ok new := by
  obtain ⟨text', new, hnew⟩ := h
  obtain ⟨here, name, hleads, -⟩ := writeText_eq_ok_iff.1 hnew
  exact ⟨_, writeText_eq_ok_iff.2 ⟨here, name, hleads, rfl⟩⟩

/-- A path still leads to the place of a file after the file has been put there. -/
lemma LeadsTo.resolve_putAt (h : root.LeadsTo path here name) (t : Tree) :
    (putAt t (here ++ [name]) root).resolve path = .ok (here ++ [name]) := by
  obtain ⟨es, hes⟩ := h.isFree.exists_directory
  have hhere : here ≠ here ++ [name] := by simp
  obtain ⟨u, hu, hkept⟩ := exists_at?_putAt h.isFree hhere hes t
  have hat := at?_putAt t (here ++ [name]) root
  rw [resolve, h.components_eq, List.foldlM_append, foldlM_enter_putAt h.isFree t h.resolves]
  cases hkept with
  | @directory _ es' _ =>
    rw [at?_append_singleton hu] at hat
    simp [enter, hu, h.isName, hat, bind, Except.bind, pure, Except.pure]

/-- A text that is written is read back. -/
theorem readText_writeText (h : root.writeText path text = .ok root') :
    root'.readText path = .ok text := by
  obtain ⟨here, name, hleads, rfl⟩ := writeText_eq_ok_iff.1 h
  rw [readText, find_of_resolve_eq_ok (hleads.resolve_putAt _), at?_putAt]
  rfl

/-- A file at another place keeps its text. -/
theorem readText_writeText_of_ne (h : root.writeText path text = .ok root') {path' : String}
    {text' : List Char} (hne : root'.resolve path' ≠ root'.resolve path)
    (hread : root.readText path' = .ok text') : root'.readText path' = .ok text' := by
  obtain ⟨here, name, hleads, rfl⟩ := writeText_eq_ok_iff.1 h
  rw [hleads.resolve_putAt] at hne
  obtain ⟨t, ht, hread⟩ := bind_eq_ok_iff.1 hread
  obtain ⟨there, hthere, hat⟩ := exists_of_find ht
  have hthere' : (putAt (.file (some text)) (here ++ [name]) root).resolve path' = .ok there :=
    foldlM_enter_putAt hleads.isFree _ hthere
  rw [hthere'] at hne
  obtain ⟨t', hat', hkept⟩ := exists_at?_putAt hleads.isFree (fun h => hne (congrArg _ h)) hat
    (.file (some text))
  rw [readText, find_of_resolve_eq_ok hthere', hat']
  cases hkept with
  | file _ => exact hread
  | directory _ => cases hread

end Adventure.Files.Tree
