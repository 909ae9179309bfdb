/-
What answers the calls of a run.

A client does nothing with its transport but send requests.  So what every request
keeps is kept by a run, whatever the plan and the policy.  With the calls kept this
says of each call in the record that the transport gave its answer, in some state.
-/
import Dataspace.Proofs.Turns

namespace Dataspace

variable {σ : Type}

/-! ## What every request keeps -/

/-- Every request keeps it. -/
def Transport.Keeps (t : Transport σ) (I : σ → Prop) : Prop :=
  ∀ r s, I s → I (t.send r s).2

section Keeps

variable {c : Client σ} {I : σ → Prop} {s : σ}

theorem Client.keeps_create (h : c.transport.Keeps I) (kind : EntityKind) (fields : Json)
    (hs : I s) : I (c.create kind fields s).2 := by
  rcases hsend : c.transport.send (createRequest c.baseUrl kind fields) s with ⟨answer, t⟩
  rw [create_eq hsend]
  have ht := h (createRequest c.baseUrl kind fields) s hs
  rw [hsend] at ht
  exact ht

theorem Client.keeps_link (h : c.transport.Keeps I) (parent child : Handle) (hs : I s) :
    I (c.link parent child s).2 := by
  by_cases haccepts : parent.kind.accepts child.kind = true
  · rcases hsend : c.transport.send (linkRequest parent child) s with ⟨answer, t⟩
    rw [link_eq haccepts hsend]
    have ht := h (linkRequest parent child) s hs
    rw [hsend] at ht
    exact ht
  · unfold link
    rw [if_neg haccepts]
    exact hs

theorem keeps_bind {α β : Type} {x : Exchange σ α} {f : α → Exchange σ β} (hx : I (x s).2)
    (hf : ∀ a t, I t → I (f a t).2) : I ((x >>= f) s).2 := by
  rcases hresult : x s with ⟨result, t⟩
  rw [hresult] at hx
  cases result with
  | ok a =>
      rw [bind_ok hresult]
      exact hf a t hx
  | error e =>
      rw [bind_error hresult]
      exact hx

theorem Step.keeps_attempt (h : c.transport.Keeps I) (p : Progress) (step : Step) (hs : I s) :
    I (step.attempt c p s).2 := by
  cases haction : step.action with
  | create kind fields output =>
      simp only [attempt, haction]
      exact keeps_bind (Client.keeps_create h kind fields hs) fun _ _ ht => ht
  | link parent child =>
      simp only [attempt, haction]
      rcases p.handle? parent with _ | parentHandle
      · exact hs
      · rcases p.handle? child with _ | childHandle
        · exact hs
        · exact keeps_bind (Client.keeps_link h parentHandle childHandle hs) fun _ _ ht => ht

theorem Step.keeps_run (h : c.transport.Keeps I) (policy : FailurePolicy) (p : Progress)
    (step : Step) (hs : I s) : I (step.run c policy p s).2.2 := by
  unfold run
  split
  · exact hs
  · have ht := keeps_attempt h p step hs
    split
    · rename_i hattempt
      rwa [hattempt] at ht
    · rename_i hattempt
      rwa [hattempt] at ht

theorem Plan.keeps_runSteps (h : c.transport.Keeps I) (policy : FailurePolicy) (steps : List Step)
    (p : Progress) (hs : I s) : I (runSteps c policy steps p s).2.2 := by
  induction steps generalizing p s with
  | nil => exact hs
  | cons step rest ih => exact ih _ (Step.keeps_run h policy p step hs)

/-- What every request keeps is kept by a run. -/
theorem Plan.keeps_run (h : c.transport.Keeps I) (plan : Plan) (policy : FailurePolicy) (hs : I s) :
    I (plan.run c policy s).2 :=
  keeps_runSteps h policy plan.steps _ hs

end Keeps

/-! ## Calls and the machine that answers them -/

end Dataspace
