/-
Computations with their notes.

A computation that keeps a state and may fail is made of parts, and the first part that
fails ends it.  It can be run twice: as it is, and against partners that note what they
are asked and what they answer.  `Noted` says that both runs come to the same, whatever
was noted before, and what they add to the notes; the notes of a computation are those of
its parts, one after the other.  `InTurn` says of tasks that are done one after the other
how far they came.
-/

namespace Dataspace

variable {ε σ τ ν α β : Type}

/-! ## One part after the other -/

section Bind

variable {x : ExceptT ε (StateM σ) α} {f : α → ExceptT ε (StateM σ) β} {s t : σ}

theorem bind_ok {a : α} (h : x s = (.ok a, t)) : (x >>= f) s = f a t := by
  show ExceptT.bindCont f (x s).1 (x s).2 = _
  rw [h]
  rfl

theorem bind_error {e : ε} (h : x s = (.error e, t)) : (x >>= f) s = (.error e, t) := by
  show ExceptT.bindCont f (x s).1 (x s).2 = _
  rw [h]
  rfl

end Bind

/-! ## The same run with notes -/

/-- From `s` the computation `x` comes to this result and to `t`, and `y` does the same where
`keep` puts the notes beside the state, and adds `notes` to them. -/
structure Noted (keep : σ → List ν → τ) (x : ExceptT ε (StateM σ) α)
    (y : ExceptT ε (StateM τ) α) (s : σ) (result : Except ε α) (t : σ) (notes : List ν) :
    Prop where
  plain : x s = (result, t)
  noted : ∀ log, y (keep s log) = (result, keep t (log ++ notes))

namespace Noted

variable {keep : σ → List ν → τ} {x : ExceptT ε (StateM σ) α} {y : ExceptT ε (StateM τ) α}
  {f : α → ExceptT ε (StateM σ) β} {g : α → ExceptT ε (StateM τ) β} {s t u : σ}
  {notes more : List ν}

/-- A part that asks nobody adds nothing to the notes. -/
theorem quiet {result : Except ε α} (hx : x s = (result, t))
    (hy : ∀ log, y (keep s log) = (result, keep t log)) : Noted keep x y s result t [] where
  plain := hx
  noted := fun log => by rw [List.append_nil, hy log]

theorem bind_ok {a : α} {result : Except ε β} (hx : Noted keep x y s (.ok a) t notes)
    (hf : Noted keep (f a) (g a) t result u more) :
    Noted keep (x >>= f) (y >>= g) s result u (notes ++ more) where
  plain := (Dataspace.bind_ok hx.plain).trans hf.plain
  noted := fun log => by
    rw [Dataspace.bind_ok (hx.noted log), hf.noted, List.append_assoc]

/-- A part before which nobody was asked. -/
theorem quiet_bind {a : α} {result : Except ε β} (hx : x s = (.ok a, t))
    (hy : ∀ log, y (keep s log) = (.ok a, keep t log))
    (hf : Noted keep (f a) (g a) t result u notes) :
    Noted keep (x >>= f) (y >>= g) s result u notes where
  plain := (Dataspace.bind_ok hx).trans hf.plain
  noted := fun log => (Dataspace.bind_ok (hy log)).trans (hf.noted log)

/-- A part after which nobody is asked any more. -/
theorem bind_quiet {a : α} {result : Except ε β} (hx : Noted keep x y s (.ok a) t notes)
    (hf : f a t = (result, u)) (hg : ∀ log, g a (keep t log) = (result, keep u log)) :
    Noted keep (x >>= f) (y >>= g) s result u notes := by
  have hnoted := hx.bind_ok (.quiet hf hg)
  rw [List.append_nil] at hnoted
  exact hnoted

theorem bind_error {e : ε} (hx : Noted keep x y s (.error e) t notes) :
    Noted keep (x >>= f) (y >>= g) s (.error e) t notes where
  plain := Dataspace.bind_error hx.plain
  noted := fun log => Dataspace.bind_error (hx.noted log)

end Noted

/-! ## Tasks in turn -/

/-- The error, if it failed. -/
def failure? : Except ε α → Option ε
  | .ok _ => none
  | .error e => some e

theorem failure?_eq_some_iff {result : Except ε α} {e : ε} :
    failure? result = some e ↔ result = .error e := by
  cases result <;> simp [failure?]

theorem failure?_eq_none_iff {result : Except ε α} :
    failure? result = none ↔ ∃ a, result = .ok a := by
  cases result <;> simp [failure?]

/-- Of these tasks all were done without an error, or those up to the first one with an error;
`task` is the task of what was done, and `error?` its error. -/
inductive InTurn (task : ν → τ) (error? : ν → Option ε) : List τ → List ν → Option ε → Prop
  | all : InTurn task error? [] [] none
  | failed {v : ν} {rest : List τ} {x : ε} : error? v = some x →
      InTurn task error? (task v :: rest) [v] (some x)
  | next {v : ν} {rest : List τ} {done : List ν} {error : Option ε} : error? v = none →
      InTurn task error? rest done error → InTurn task error? (task v :: rest) (v :: done) error

namespace InTurn

variable {task : ν → τ} {error? : ν → Option ε} {tasks : List τ} {done before after : List ν}
  {error : Option ε} {v : ν} {x : ε}

theorem tasks_prefix (h : InTurn task error? tasks done error) : done.map task <+: tasks := by
  induction h with
  | all => exact List.prefix_refl _
  | failed _ => exact List.cons_prefix_cons.mpr ⟨rfl, List.nil_prefix⟩
  | next _ _ ih => exact List.cons_prefix_cons.mpr ⟨rfl, ih⟩

/-- Nothing is done after an error. -/
theorem none_before (h : InTurn task error? tasks done error) (hdone : done = before ++ v :: after) :
    ∀ u ∈ before, error? u = none := by
  induction h generalizing before with
  | all => exact absurd hdone.symm (by simp)
  | failed _ =>
      cases before with
      | nil => exact fun _ hmem => absurd hmem List.not_mem_nil
      | cons _ _ => simp at hdone
  | next hnone _ ih =>
      cases before with
      | nil => exact fun _ hmem => absurd hmem List.not_mem_nil
      | cons first rest =>
          obtain ⟨rfl, hrest⟩ := List.cons.inj hdone
          exact List.forall_mem_cons.mpr ⟨hnone, ih hrest⟩

/-- What has an error is the last, and its error is that of the whole. -/
theorem last_of_some (h : InTurn task error? tasks done error) (hdone : done = before ++ v :: after)
    (hv : error? v = some x) : after = [] ∧ error = some x := by
  induction h generalizing before with
  | all => exact absurd hdone.symm (by simp)
  | failed hsome =>
      cases before with
      | nil =>
          cases hdone
          exact ⟨rfl, hsome.symm.trans hv⟩
      | cons _ _ => simp at hdone
  | next hnone _ ih =>
      cases before with
      | nil =>
          cases hdone
          cases hnone.symm.trans hv
      | cons first rest => exact ih (List.cons.inj hdone).2

/-- Without an error all tasks were done, and only then. -/
theorem error_eq_none_iff (h : InTurn task error? tasks done error) :
    error = none ↔ done.map task = tasks ∧ ∀ v ∈ done, error? v = none := by
  induction h with
  | all => simp
  | failed hsome => simp [hsome]
  | next hnone _ ih => simp [ih, hnone]

theorem ne_nil_iff (h : InTurn task error? tasks done error) : done ≠ [] ↔ tasks ≠ [] := by
  cases h with
  | all => exact iff_of_false (fun h => h rfl) (fun h => h rfl)
  | failed _ | next _ _ => exact iff_of_true (List.cons_ne_nil _ _) (List.cons_ne_nil _ _)

theorem exists_last (h : InTurn task error? tasks done (some x)) :
    ∃ before v, done = before ++ [v] ∧ error? v = some x := by
  generalize herror : some x = error at h
  induction h with
  | all => cases herror
  | @failed v _ _ hsome =>
      cases herror
      exact ⟨[], v, rfl, hsome⟩
  | @next v _ _ _ _ _ ih =>
      obtain ⟨before, u, rfl, hu⟩ := ih herror
      exact ⟨v :: before, u, rfl, hu⟩

theorem error_eq_none (h : InTurn task error? tasks done error)
    (hnone : ∀ v ∈ done, error? v = none) : error = none := by
  cases error with
  | none => rfl
  | some x =>
      obtain ⟨before, v, rfl, hv⟩ := h.exists_last
      exact absurd (hv.symm.trans (hnone v (by simp))) (by simp)

end InTurn

end Dataspace
