/-
Two runs side by side.

A computation is run twice, on two machines or with two secrets.  `Together` says that
related states are enough for the same result and related states after it; a computation
that is put together from such parts is such a computation again.  Publishing is: what it
does with the password is to hand it to the login, so it goes the same way on two engines
whose logins with these two passwords do.
-/
import Dataspace.Proofs.Publishing

namespace Dataspace

open Text

/-! ## Computations that go together -/

/-- From related states both computations come to the same result and to related states. -/
def Together {ε σ τ α : Type} (R : σ → τ → Prop) (x : ExceptT ε (StateM σ) α)
    (y : ExceptT ε (StateM τ) α) : Prop :=
  ∀ s t, R s t → (x s).1 = (y t).1 ∧ R (x s).2 (y t).2

namespace Together

variable {ε σ τ α β : Type} {R : σ → τ → Prop} {x : ExceptT ε (StateM σ) α}
  {y : ExceptT ε (StateM τ) α} {f : α → ExceptT ε (StateM σ) β} {g : α → ExceptT ε (StateM τ) β}

/-- What touches no state. -/
theorem pure (a : α) :
    Together R (Pure.pure a : ExceptT ε (StateM σ) α) (Pure.pure a : ExceptT ε (StateM τ) α) :=
  fun _ _ h => ⟨rfl, h⟩

theorem bind (hx : Together R x y) (hf : ∀ a, Together R (f a) (g a)) :
    Together R (x >>= f) (y >>= g) := by
  intro s t hst
  obtain ⟨hresult, hleft⟩ := hx s t hst
  rcases hxs : x s with ⟨result, s'⟩
  rcases hyt : y t with ⟨result', t'⟩
  rw [hxs, hyt] at hresult hleft
  obtain rfl : result = result' := hresult
  cases result with
  | ok a =>
      rw [bind_ok hxs, bind_ok hyt]
      exact hf a s' t' hleft
  | error e =>
      rw [bind_error hxs, bind_error hyt]
      exact ⟨rfl, hleft⟩

end Together

/-! ## Engines -/

/-- The calls of two engines go together; each has a password of its own to log in with. -/
structure Engine.Matches {η θ : Type} (R : η → θ → Prop) (e : Engine η) (f : Engine θ)
    (password other : String) : Prop where
  login : ∀ registry username, Together R (e.login registry username password)
    (f.login registry username other)
  pull : ∀ image, Together R (e.pull image) (f.pull image)
  tag : ∀ source target, Together R (e.tag source target) (f.tag source target)
  push : ∀ reference, Together R (e.push reference) (f.push reference)
  images : Together R e.images f.images

/-! ## Publishers -/

namespace Publisher

variable {η θ α : Type} {R : η → θ → Prop} {password other : String}

/-- The publisher with another password. -/
def withPassword (p : Publisher) (password : String) : Publisher :=
  { p with password := password }

/-- Two publishers that are the same but for their passwords, each with its engine. -/
def Beside (R : η → θ → Prop) (password other : String) (x : Publisher × η) (y : Publisher × θ) :
    Prop :=
  x.1.password = password ∧ y.1 = x.1.withPassword other ∧ R x.2 y.2

/-- A call of both engines after which the publishers change alike. -/
theorem together_calling {call : Publisher → EngineRun η α} {call' : Publisher → EngineRun θ α}
    {change : Publisher → Publisher}
    (hcall : ∀ p, p.password = password → Together R (call p) (call' (p.withPassword other)))
    (hchange : ∀ p, (change p).password = p.password ∧
      change (p.withPassword other) = (change p).withPassword other) :
    Together (Beside R password other) (calling call change) (calling call' change) := by
  rintro ⟨p, s⟩ ⟨q, t⟩ ⟨hp, hq, hst⟩
  obtain rfl : q = p.withPassword other := hq
  obtain ⟨hresult, hleft⟩ := hcall p hp s t hst
  rcases hcs : call p s with ⟨result, s'⟩
  rcases hct : call' (p.withPassword other) t with ⟨result', t'⟩
  rw [hcs, hct] at hresult hleft
  obtain rfl : result = result' := hresult
  simp only [calling, hcs, hct]
  cases result with
  | ok a => exact ⟨rfl, (hchange p).1.trans hp, (hchange p).2, hleft⟩
  | error e => exact ⟨rfl, hp, rfl, hleft⟩

variable {e : Engine η} {f : Engine θ} (h : e.Matches R f password other)
include h

/-- Whether a push is refused does not depend on the password either. -/
theorem together_push : Together (Beside R password other) (push e) (push f) := by
  have hcall : Together (Beside R password other)
      (calling (fun p => e.push p.reference.text) (reaching .pushed))
      (calling (fun p => f.push p.reference.text) (reaching .pushed)) :=
    together_calling (fun p _ => h.push p.reference.text) fun _ => ⟨rfl, rfl⟩
  rintro ⟨p, s⟩ ⟨q, t⟩ hbeside
  obtain ⟨hp, rfl, hst⟩ := hbeside
  by_cases hlogged : p.loggedIn = true
  · have hpush : push e (p, s) = _ := if_pos hlogged
    have hother : push f (p.withPassword other, t) = _ := if_pos hlogged
    rw [hpush, hother]
    exact hcall _ _ ⟨hp, rfl, hst⟩
  · have hpush : push e (p, s) = _ := if_neg hlogged
    have hother : push f (p.withPassword other, t) = _ := if_neg hlogged
    rw [hpush, hother]
    exact ⟨rfl, hp, rfl, hst⟩

/-- A whole run, to its report or to the first error. -/
theorem together_run : Together (Beside R password other) (run e) (run f) := by
  have hlogin : Together (Beside R password other) (login e) (login f) := by
    refine together_calling ?_ fun _ => ⟨rfl, rfl⟩
    intro p hp
    rw [hp]
    exact h.login p.reference.registry p.username
  refine .bind (together_calling (fun p _ => h.pull p.source) fun _ => ⟨rfl, rfl⟩) fun _ => ?_
  refine .bind (together_calling (fun p _ => h.tag p.source p.reference.text)
    fun _ => ⟨rfl, rfl⟩) fun _ => ?_
  refine .bind (together_calling (fun _ _ => h.images) fun _ => ⟨rfl, rfl⟩) fun images => ?_
  refine .bind hlogin fun _ => ?_
  refine .bind (together_push h) fun digest => ?_
  rintro ⟨p, s⟩ ⟨q, t⟩ ⟨hp, rfl, hst⟩
  exact ⟨rfl, hp, rfl, hst⟩

end Publisher

/-! ## The whole -/

/-- The settings with another password. -/
def RegistrySettings.withPassword (registry : RegistrySettings) (password : String) :
    RegistrySettings :=
  { registry with password := some password }

namespace PublishSettings

variable (registry : RegistrySettings) (image : ImageSettings) (resourceId : String)
  {password other : String}

/-- A password that is not blank is never the setting that is reported. -/
theorem firstBlank?_withPassword (h : trim password ≠ "") :
    firstBlank? ⟨registry.withPassword password, image, resourceId⟩
      = ((demanded ⟨registry, image, resourceId⟩).dropLast.find?
          fun d => trimmed d.2 == "").map Prod.fst := by
  have hsplit : demanded ⟨registry.withPassword password, image, resourceId⟩
      = (demanded ⟨registry, image, resourceId⟩).dropLast ++ [(.password, some password)] := rfl
  have hfilled : [(RegistryField.password, some password)].find? (fun d => trimmed d.2 == "")
      = none := by
    simpa [trimmed] using h
  rw [firstBlank?, hsplit, List.find?_append, hfilled, Option.or_none]

/-- Publishing with one password and with another, on engines that go together. -/
theorem together_publishImage {η θ : Type} {R : η → θ → Prop} {e : Engine η} {f : Engine θ}
    (h : e.Matches R f (trim password) (trim other)) (hpassword : trim password ≠ "")
    (hother : trim other ≠ "") :
    Together R (publishImage e (registry.withPassword password) image resourceId)
      (publishImage f (registry.withPassword other) image resourceId) := by
  intro s t hst
  have hfirst := ofSettings_eq ⟨registry.withPassword password, image, resourceId⟩
  have hsecond := ofSettings_eq ⟨registry.withPassword other, image, resourceId⟩
  rw [firstBlank?_withPassword _ _ _ hpassword] at hfirst
  rw [firstBlank?_withPassword _ _ _ hother] at hsecond
  cases hblank : ((demanded ⟨registry, image, resourceId⟩).dropLast.find?
      fun d => trimmed d.2 == "").map Prod.fst with
  | some field =>
      rw [hblank] at hfirst hsecond
      have hx : publishImage e (registry.withPassword password) image resourceId s
          = (.error (.missing field), s) := by
        simp only [publishImage, hfirst]
      have hy : publishImage f (registry.withPassword other) image resourceId t
          = (.error (.missing field), t) := by
        simp only [publishImage, hsecond]
      rw [hx, hy]
      exact ⟨rfl, hst⟩
  | none =>
      rw [hblank] at hfirst hsecond
      have hrun := Publisher.together_run h
        (publisher ⟨registry.withPassword password, image, resourceId⟩, s)
        (publisher ⟨registry.withPassword other, image, resourceId⟩, t) ⟨rfl, rfl, hst⟩
      simp only [publishImage, hfirst, hsecond]
      exact ⟨hrun.1, hrun.2.2.2⟩

end PublishSettings

end Dataspace
