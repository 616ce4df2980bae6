import Adventure.Log
import Mathlib.Data.List.Forall2

/-!
# Computations that may fail

When a computation has a result, in terms of its parts. What a logged computation gives is what the
same computation gives without its log.

* `mapM_eq_ok_iff` : the results of a computation for each element of a list.
* `failure?_mapM` : a computation for each element of a list fails where the first one fails.
* `Logged.result_bind`, `Logged.result_mapM`, `Logged.result_foldlM` : the log does not matter for
  the result.
* `Logged.IsQuiet` : a computation that logs no warning.
-/

namespace Adventure

variable {ε ε' α β γ : Type}

/-! ### Without a log -/

lemma bind_eq_ok_iff {x : Except ε α} {f : α → Except ε β} {b : β} :
    x >>= f = .ok b ↔ ∃ a, x = .ok a ∧ f a = .ok b := by
  cases x <;> simp [bind, Except.bind]

lemma map_eq_ok_iff {x : Except ε α} {f : α → β} {b : β} :
    f <$> x = .ok b ↔ ∃ a, x = .ok a ∧ f a = b := by
  cases x <;> simp [Functor.map, Except.map]

lemma mapError_eq_ok_iff {x : Except ε α} {f : ε → ε'} {a : α} :
    x.mapError f = .ok a ↔ x = .ok a := by
  cases x <;> simp [Except.mapError]

lemma bind_eq_error_iff {x : Except ε α} {f : α → Except ε β} {e : ε} :
    x >>= f = .error e ↔ x = .error e ∨ ∃ a, x = .ok a ∧ f a = .error e := by
  cases x <;> simp [bind, Except.bind]

lemma mapError_eq_error_iff {x : Except ε α} {f : ε → ε'} {e : ε'} :
    x.mapError f = .error e ↔ ∃ e', x = .error e' ∧ f e' = e := by
  cases x <;> simp [Except.mapError]

lemma pure_ne_error {a : α} {e : ε} : (pure a : Except ε α) ≠ .error e := by
  simp [pure, Except.pure]

lemma pure_eq_ok_iff {a b : α} : (pure a : Except ε α) = .ok b ↔ a = b := by
  simp [pure, Except.pure]

lemma throw_ne_ok {e : ε} {b : α} : (throw e : Except ε α) ≠ .ok b := by
  simp [throw, throwThe, MonadExceptOf.throw]

/-- A list is computed element by element. -/
lemma mapM_eq_ok_iff {f : α → Except ε β} {as : List α} {bs : List β} :
    as.mapM f = .ok bs ↔ List.Forall₂ (fun a b => f a = .ok b) as bs := by
  induction as generalizing bs with
  | nil => cases bs <;> simp [pure, Except.pure]
  | cons a as ih =>
    simp only [List.mapM_cons, bind_eq_ok_iff, pure_eq_ok_iff, ih]
    constructor
    · rintro ⟨b, hb, bs, hbs, rfl⟩
      exact .cons hb hbs
    · rintro (_ | ⟨hb, hbs⟩)
      exact ⟨_, hb, _, hbs, rfl⟩

/-- Of two lists that are related element by element, each element of the second one is related to
one of the first. -/
lemma exists_of_forall₂_of_mem {R : α → β → Prop} {as : List α} {bs : List β}
    (h : List.Forall₂ R as bs) {b : β} (hb : b ∈ bs) : ∃ a ∈ as, R a b := by
  induction h with
  | nil => cases hb
  | cons hab _ ih =>
    rcases List.mem_cons.1 hb with rfl | hb
    · exact ⟨_, List.mem_cons_self .., hab⟩
    · obtain ⟨a, ha, hr⟩ := ih hb
      exact ⟨a, List.mem_cons_of_mem _ ha, hr⟩

/-! ### Failures -/

/-- How a computation fails, if it does. -/
def failure? : Except ε α → Option ε
  | .ok _    => none
  | .error e => some e

@[simp] lemma failure?_ok (a : α) : failure? (.ok a : Except ε α) = none := rfl

@[simp] lemma failure?_error (e : ε) : failure? (.error e : Except ε α) = some e := rfl

lemma failure?_eq_some_iff {x : Except ε α} {e : ε} : failure? x = some e ↔ x = .error e := by
  cases x <;> simp

lemma failure?_eq_none_iff {x : Except ε α} : failure? x = none ↔ ∃ a, x = .ok a := by
  cases x <;> simp

@[simp] lemma failure?_mapError (f : ε → ε') (x : Except ε α) :
    failure? (x.mapError f) = (failure? x).map f := by
  cases x <;> rfl

@[simp] lemma failure?_map (f : α → β) (x : Except ε α) : failure? (f <$> x) = failure? x := by
  cases x <;> rfl

lemma failure?_bind_pure (x : Except ε α) (f : α → β) :
    failure? (x >>= fun a => pure (f a)) = failure? x := by
  cases x <;> rfl

/-- Of two computations one after the other, the second one fails only if the first one does not. -/
lemma failure?_bind {x : Except ε α} {f : α → Except ε β} {e? : Option ε}
    (h : ∀ a, x = .ok a → failure? (f a) = e?) : failure? (x >>= f) = (failure? x).or e? := by
  cases x with
  | error e => rfl
  | ok a => exact h a rfl

/-- The first element that fails decides. -/
lemma failure?_mapM (f : α → Except ε β) (as : List α) :
    failure? (as.mapM f) = as.findSome? fun a => failure? (f a) := by
  induction as with
  | nil => rfl
  | cons a as ih =>
    rw [List.mapM_cons, List.findSome?_cons]
    cases f a with
    | error e => rfl
    | ok b => exact (failure?_bind_pure (as.mapM f) fun bs => b :: bs).trans ih

/-- What is found first in lists one after the other is found first in one of them. -/
lemma findSome?_flatMap (f : β → Option γ) (g : α → List β) (as : List α) :
    (as.flatMap g).findSome? f = as.findSome? fun a => (g a).findSome? f := by
  induction as with
  | nil => rfl
  | cons a as ih =>
    rw [List.flatMap_cons, List.findSome?_append, ih, List.findSome?_cons]
    cases (g a).findSome? f <;> rfl

lemma findSome?_map_of_forall {δ : Type} {f : β → Option γ} {wrap : α → β} {g : α → Option δ}
    {h : δ → γ} (hwrap : ∀ a, f (wrap a) = (g a).map h) (as : List α) :
    (as.map wrap).findSome? f = (as.findSome? g).map h := by
  rw [List.findSome?_map, List.map_findSome?]
  exact congrArg (as.findSome? ·) (funext hwrap)

/-! ### With a log -/

namespace Logged

lemma result_bind (x : Logged ε α) (f : α → Logged ε β) :
    (x >>= f).result = x.result >>= fun a => (f a).result := by
  show (x.andThen f).result = _
  unfold andThen
  cases x.result <;> rfl

lemma result_bind_eq_ok_iff {x : Logged ε α} {f : α → Logged ε β} {b : β} :
    (x >>= f).result = .ok b ↔ ∃ a, x.result = .ok a ∧ (f a).result = .ok b := by
  rw [result_bind, bind_eq_ok_iff]

lemma result_check_eq_ok_iff {onError : ε' → ε} {x : Except ε' α} {a : α} :
    (check onError x).result = .ok a ↔ x = .ok a :=
  mapError_eq_ok_iff

lemma result_mapError_eq_ok_iff {f : ε → ε'} {x : Logged ε α} {a : α} :
    (x.mapError f).result = .ok a ↔ x.result = .ok a :=
  mapError_eq_ok_iff

/-- A change of a result may be left to what comes after it. -/
lemma ofExcept_map_bind (f : α → β) (x : Except ε α) (g : β → Logged ε γ) :
    ofExcept (f <$> x) >>= g = ofExcept x >>= fun a => g (f a) := by
  cases x <;> rfl

lemma check_map_bind (onError : ε' → ε) (f : α → β) (x : Except ε' α)
    (g : β → Logged ε γ) :
    check onError (f <$> x) >>= g = check onError x >>= fun a => g (f a) := by
  cases x <;> rfl

lemma check_ok_bind (onError : ε' → ε) (a : α) (f : α → Logged ε β) :
    check onError (.ok a) >>= f = f a := rfl

lemma result_pure (a : α) : (pure a : Logged ε α).result = pure a := rfl

instance : LawfulMonad (Logged ε) := by
  refine LawfulMonad.mk' _ ?_ ?_ ?_
  · rintro α ⟨records, result⟩
    cases result <;> simp [Functor.map, andThen]
  · intro α β a f
    simp [bind, pure, andThen]
  · rintro α β γ ⟨records, result⟩ f g
    cases result with
    | error e => rfl
    | ok a =>
      show (andThen (andThen _ f) g) = andThen _ fun a => andThen (f a) g
      simp only [andThen]
      cases (f a).result <;> simp

lemma result_mapM (f : α → Logged ε β) (as : List α) :
    (as.mapM f).result = as.mapM fun a => (f a).result := by
  induction as with
  | nil => rfl
  | cons a as ih => simp only [List.mapM_cons, result_bind, result_pure, ih]

/-- A computation fails in its first step, or else as the second one does, if that does not depend
on the result of the first. -/
lemma failure?_bind {x : Logged ε α} {f : α → Logged ε β} {e? : Option ε}
    (h : ∀ a, x.result = .ok a → failure? (f a).result = e?) :
    failure? (x >>= f).result = (failure? x.result).or e? := by
  rw [result_bind]
  exact Adventure.failure?_bind h

lemma failure?_bind_pure (x : Logged ε α) (f : α → β) :
    failure? (x >>= fun a => pure (f a)).result = failure? x.result := by
  rw [result_bind]
  exact Adventure.failure?_bind_pure x.result f

/-- A loop whose steps compute something and then put it into a state computes everything first. -/
lemma result_foldlM {f : β → α → Logged ε β} {g : α → Except ε γ} {put : β → γ → β}
    (hf : ∀ b a, (f b a).result = put b <$> g a) (as : List α) (b : β) :
    (as.foldlM f b).result = (fun cs => cs.foldl put b) <$> as.mapM g := by
  induction as generalizing b with
  | nil => rfl
  | cons a as ih =>
    rw [List.foldlM_cons, result_bind, hf, List.mapM_cons]
    cases g a with
    | error e => rfl
    | ok c =>
      refine (ih (put b c)).trans ?_
      show _ = _ <$> (as.mapM g >>= fun cs => pure (c :: cs))
      cases as.mapM g <;> rfl

/-! #### Records -/

lemma records_bind_of_ok {x : Logged ε α} {f : α → Logged ε β} {a : α} (h : x.result = .ok a) :
    (x >>= f).records = x.records ++ (f a).records := by
  show (x.andThen f).records = _
  rw [andThen, h]

def warnings (x : Logged ε α) : List LogRecord :=
  x.records.filter fun r => r.level = .warning

lemma warnings_bind_of_ok {x : Logged ε α} {f : α → Logged ε β} {a : α} (h : x.result = .ok a) :
    (x >>= f).warnings = x.warnings ++ (f a).warnings := by
  rw [warnings, records_bind_of_ok h, List.filter_append]
  rfl

/-- No warning is logged. -/
def IsQuiet (x : Logged ε α) : Prop :=
  ∀ r ∈ x.records, r.level ≠ .warning

lemma IsQuiet.warnings_eq_nil {x : Logged ε α} (h : x.IsQuiet) : x.warnings = [] := by
  rw [warnings, List.filter_eq_nil_iff]
  intro r hr
  simpa using h r hr

lemma isQuiet_ofExcept (x : Except ε α) : (ofExcept x).IsQuiet := by
  intro r hr
  cases hr

lemma isQuiet_tell {level : LogLevel} (h : level ≠ .warning) (message : String) :
    (tell level message : Logged ε Unit).IsQuiet := by
  intro r hr
  rw [List.mem_singleton.1 hr]
  exact h

lemma IsQuiet.mapError {x : Logged ε α} (hx : x.IsQuiet) (f : ε → ε') : (x.mapError f).IsQuiet :=
  hx

lemma IsQuiet.bind {x : Logged ε α} {f : α → Logged ε β} (hx : x.IsQuiet)
    (hf : ∀ a, (f a).IsQuiet) : (x >>= f).IsQuiet := by
  cases hresult : x.result with
  | error e =>
    show (x.andThen f).IsQuiet
    rw [andThen, hresult]
    exact hx
  | ok a =>
    intro r hr
    rw [records_bind_of_ok hresult, List.mem_append] at hr
    exact hr.elim (hx r) (hf a r)

lemma IsQuiet.mapM {f : α → Logged ε β} (hf : ∀ a, (f a).IsQuiet) (as : List α) :
    (as.mapM f).IsQuiet := by
  induction as with
  | nil => exact isQuiet_ofExcept _
  | cons a as ih =>
    rw [List.mapM_cons]
    exact (hf a).bind fun b => ih.bind fun bs => isQuiet_ofExcept _

end Logged

end Adventure
