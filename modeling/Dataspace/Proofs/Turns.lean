/-
Runs of plans, turn by turn.

`Turn` says once what can become of a step: it is passed over, or one request is
sent for it and the answer decides between done and failed.  `Turns` puts the
turns of a run together.  A run of a plan that fits its steps is such a sequence,
with the calls in the order of the steps, whatever machine answers; statements
about runs are then statements about turns.
-/
import Dataspace.Plan.Run
import Dataspace.Proofs.Calls
import Dataspace.Proofs.PlanShape

namespace Dataspace

/-- A step that a run has come to: what became of it, and the call made for it. -/
structure Visit where
  step : Step
  status : StepStatus
  call : Option Call

/-- What a report says of a step. -/
def Visit.outcome (v : Visit) : StepOutcome :=
  ⟨v.step.label, v.status⟩

open Client in
/-- One turn: from a progress, a step is visited, and this is the next progress. -/
inductive Turn (base : String) (policy : FailurePolicy) (p : Progress) : Visit → Progress → Prop
  | skipped {step : Step} : step.isSkipped policy p = true →
      Turn base policy p ⟨step, .skipped, none⟩ p
  | created {step : Step} {kind : EntityKind} {fields : Json} {output : Nat}
      {answer : Except Outage Response} {handle : Handle} :
      step.isSkipped policy p = false → step.action = .create kind fields output →
      createdHandle base kind fields answer = .ok handle →
      Turn base policy p ⟨step, .done, some (createRequest base kind fields, answer)⟩
        (p.withHandle output handle)
  | uncreated {step : Step} {kind : EntityKind} {fields : Json} {output : Nat}
      {answer : Except Outage Response} {e : ConnectorError} :
      step.isSkipped policy p = false → step.action = .create kind fields output →
      createdHandle base kind fields answer = .error e →
      Turn base policy p ⟨step, .failed e, some (createRequest base kind fields, answer)⟩
        { p with failed := true }
  | linked {step : Step} {parent child : Nat} {parentHandle childHandle : Handle}
      {answer : Except Outage Response} :
      step.isSkipped policy p = false → step.action = .link parent child →
      p.handle? parent = some parentHandle → p.handle? child = some childHandle →
      linkResult parentHandle childHandle answer = .ok () →
      Turn base policy p ⟨step, .done, some (linkRequest parentHandle childHandle, answer)⟩ p
  | unlinked {step : Step} {parent child : Nat} {parentHandle childHandle : Handle}
      {answer : Except Outage Response} {e : ConnectorError} :
      step.isSkipped policy p = false → step.action = .link parent child →
      p.handle? parent = some parentHandle → p.handle? child = some childHandle →
      linkResult parentHandle childHandle answer = .error e →
      Turn base policy p ⟨step, .failed e, some (linkRequest parentHandle childHandle, answer)⟩
        { p with failed := true }

/-- One turn after the other. -/
inductive Turns (base : String) (policy : FailurePolicy) :
    Progress → List Visit → Progress → Prop
  | nil {p : Progress} : Turns base policy p [] p
  | cons {p q r : Progress} {v : Visit} {rest : List Visit} :
      Turn base policy p v q → Turns base policy q rest r → Turns base policy p (v :: rest) r

/-! ## Handles -/

namespace Progress

theorem handle?_start (slots slot : Nat) : (start slots).handle? slot = none := by
  simp only [handle?, start, List.getElem?_replicate]
  split <;> rfl

theorem length_withHandle (p : Progress) (output : Nat) (handle : Handle) :
    (p.withHandle output handle).handles.length = p.handles.length :=
  List.length_set

theorem withHandle_of_le {p : Progress} {output : Nat} (h : p.handles.length ≤ output)
    (handle : Handle) : p.withHandle output handle = p := by
  unfold withHandle
  rw [List.set_eq_of_length_le h]

theorem handle?_withHandle {p : Progress} {output : Nat} (h : output < p.handles.length)
    (handle : Handle) (slot : Nat) :
    (p.withHandle output handle).handle? slot
      = if slot = output then some handle else p.handle? slot := by
  by_cases hslot : slot = output
  · subst hslot
    simp [handle?, withHandle, h]
  · simp [handle?, withHandle, List.getElem?_set_ne (Ne.symm hslot), hslot]

/-- What a progress is worth after steps that create entities of these kinds: a handle
is of its slot's kind, and when failing fast nothing is missing before a failure. -/
structure Holds (policy : FailurePolicy) (slots : Nat) (before : List EntityKind)
    (p : Progress) : Prop where
  size : p.handles.length = slots
  kindOf : ∀ slot handle, p.handle? slot = some handle → before[slot]? = some handle.kind
  filled : policy = .failFast → p.failed = false →
    ∀ slot < before.length, (p.handle? slot).isSome = true

variable {policy : FailurePolicy} {slots : Nat} {before : List EntityKind} {p : Progress}

theorem holds_start (policy : FailurePolicy) (slots : Nat) :
    (start slots).Holds policy slots [] where
  size := List.length_replicate
  kindOf := fun slot _ h => absurd ((handle?_start slots slot).symm.trans h) (by simp)
  filled := fun _ _ slot h => absurd h (Nat.not_lt_zero slot)

theorem Holds.kindOf_append (hp : p.Holds policy slots before) (more : List EntityKind)
    (slot : Nat) (handle : Handle) (h : p.handle? slot = some handle) :
    (before ++ more)[slot]? = some handle.kind := by
  have hslot := hp.kindOf slot handle h
  rw [List.getElem?_append_left (List.getElem?_eq_some_iff.mp hslot).1]
  exact hslot

theorem Holds.failed (hp : p.Holds policy slots before) (more : List EntityKind) :
    Progress.Holds policy slots (before ++ more) { p with failed := true } where
  size := hp.size
  kindOf := hp.kindOf_append more
  filled := fun _ h => absurd h (by simp)

end Progress

/-- The inputs of a link step that is not passed over are there, and their kinds go
together. -/
theorem Step.inputs_ready {policy : FailurePolicy} {slots : Nat} {before : List EntityKind}
    {p : Progress} {step : Step} {parent child : Nat} (hfits : step.Fits before)
    (hp : p.Holds policy slots before) (haction : step.action = .link parent child)
    (hskip : step.isSkipped policy p = false) :
    ∃ parentHandle childHandle, p.handle? parent = some parentHandle ∧
      p.handle? child = some childHandle ∧ parentHandle.kind.accepts childHandle.kind = true := by
  rw [Fits, haction] at hfits
  obtain ⟨parentKind, childKind, hparent, hchild, haccepts⟩ := hfits
  have hready : (p.handle? parent).isSome = true ∧ (p.handle? child).isSome = true := by
    cases policy with
    | failFast =>
        have hfilled := hp.filled rfl hskip
        exact ⟨hfilled parent (List.getElem?_eq_some_iff.mp hparent).1,
          hfilled child (List.getElem?_eq_some_iff.mp hchild).1⟩
    | keepGoing => simpa [isSkipped, reads, haction] using hskip
  obtain ⟨parentHandle, hparent'⟩ := Option.isSome_iff_exists.mp hready.1
  obtain ⟨childHandle, hchild'⟩ := Option.isSome_iff_exists.mp hready.2
  refine ⟨parentHandle, childHandle, hparent', hchild', ?_⟩
  have hparentKind := hparent.symm.trans (hp.kindOf _ _ hparent')
  have hchildKind := hchild.symm.trans (hp.kindOf _ _ hchild')
  rw [← Option.some.inj hparentKind, ← Option.some.inj hchildKind]
  exact haccepts

/-! ## One step is one turn -/

section Step

variable {σ : Type} {policy : FailurePolicy} {slots : Nat} {before : List EntityKind}
  {p : Progress} {step : Step}

/-- The status of an attempt with this result, and the progress after it. -/
def Progress.settle (p : Progress) : Except ConnectorError Progress → StepStatus × Progress
  | .ok q => (.done, q)
  | .error e => (.failed e, { p with failed := true })

theorem Step.run_create {c : Client σ} {s t : σ} {kind : EntityKind} {fields : Json}
    {output : Nat} {result : Except ConnectorError Handle}
    (hskip : step.isSkipped policy p = false) (haction : step.action = .create kind fields output)
    (h : c.create kind fields s = (result, t)) :
    step.run c policy p s =
      let settled := p.settle (result.map (p.withHandle output))
      (settled.1, settled.2, t) := by
  have hattempt : step.attempt c p =
      c.create kind fields >>= fun handle => return p.withHandle output handle := by
    unfold attempt
    rw [haction]
  unfold run
  rw [hskip, hattempt]
  cases result with
  | ok handle => rw [bind_ok h]; rfl
  | error e => rw [bind_error h]; rfl

theorem Step.run_link {c : Client σ} {s t : σ} {parent child : Nat}
    {parentHandle childHandle : Handle} {result : Except ConnectorError Unit}
    (hskip : step.isSkipped policy p = false) (haction : step.action = .link parent child)
    (hparent : p.handle? parent = some parentHandle) (hchild : p.handle? child = some childHandle)
    (h : c.link parentHandle childHandle s = (result, t)) :
    step.run c policy p s =
      let settled := p.settle (result.map fun _ => p)
      (settled.1, settled.2, t) := by
  have hattempt : step.attempt c p = c.link parentHandle childHandle >>= fun _ => return p := by
    unfold attempt
    rw [haction]
    simp only [hparent, hchild]
  unfold run
  rw [hskip, hattempt]
  cases result with
  | ok _ => rw [bind_ok h]; rfl
  | error e => rw [bind_error h]; rfl

/-- Running a step is a turn; with the calls kept, the call of the turn is added to them. -/
theorem Step.run_turn (c : Client σ) (hfits : step.Fits before) (hp : p.Holds policy slots before)
    (s : σ) :
    ∃ v q t, v.step = step ∧ Turn c.baseUrl policy p v q ∧
      step.run c policy p s = (v.status, q, t) ∧
      ∀ log, step.run c.logging policy p (s, log) = (v.status, q, t, log ++ v.call.toList) := by
  cases hskip : step.isSkipped policy p with
  | true =>
      refine ⟨⟨step, .skipped, none⟩, p, s, rfl, .skipped hskip, ?_, fun log => ?_⟩
      · simp [run, hskip]
      · simp [run, hskip]
  | false =>
      cases haction : step.action with
      | create kind fields output =>
          rcases hsend : c.transport.send (Client.createRequest c.baseUrl kind fields) s with
            ⟨answer, t⟩
          have hrun := run_create hskip haction (Client.create_eq hsend)
          have hlogged := fun log => run_create hskip haction (Client.logging_create hsend log)
          cases hhandle : Client.createdHandle c.baseUrl kind fields answer with
          | ok handle =>
              rw [hhandle] at hrun hlogged
              exact ⟨_, _, _, rfl, .created hskip haction hhandle, hrun, hlogged⟩
          | error e =>
              rw [hhandle] at hrun hlogged
              exact ⟨_, _, _, rfl, .uncreated hskip haction hhandle, hrun, hlogged⟩
      | link parent child =>
          obtain ⟨parentHandle, childHandle, hparent, hchild, haccepts⟩ :=
            inputs_ready hfits hp haction hskip
          rcases hsend : c.transport.send (Client.linkRequest parentHandle childHandle) s with
            ⟨answer, t⟩
          have hrun := run_link hskip haction hparent hchild (Client.link_eq haccepts hsend)
          have hlogged := fun log =>
            run_link hskip haction hparent hchild (Client.logging_link haccepts hsend log)
          cases hresult : Client.linkResult parentHandle childHandle answer with
          | ok _ =>
              rw [hresult] at hrun hlogged
              exact ⟨_, _, _, rfl, .linked hskip haction hparent hchild hresult, hrun, hlogged⟩
          | error e =>
              rw [hresult] at hrun hlogged
              exact ⟨_, _, _, rfl, .unlinked hskip haction hparent hchild hresult, hrun, hlogged⟩

theorem Progress.Holds.withHandle {kind : EntityKind} {handle : Handle}
    (hp : p.Holds policy slots before) (hslots : before.length < slots)
    (hkind : handle.kind = kind) :
    (p.withHandle before.length handle).Holds policy slots (before ++ [kind]) := by
  have hlookup := handle?_withHandle (hp.size ▸ hslots) handle
  refine ⟨(p.length_withHandle _ _).trans hp.size, ?_, ?_⟩
  · intro slot found h
    rw [hlookup] at h
    split at h
    · rename_i hslot
      cases h
      rw [hslot, hkind]
      exact List.getElem?_concat_length
    · exact hp.kindOf_append [kind] slot found h
  · intro hpolicy hfailed slot h
    rw [hlookup]
    split
    · rfl
    · rename_i hslot
      rw [List.length_append] at h
      exact hp.filled hpolicy hfailed slot (Nat.lt_of_le_of_ne (Nat.le_of_lt_succ h) hslot)

theorem Turn.holds {base : String} {v : Visit} {q : Progress} (h : Turn base policy p v q)
    (hfits : v.step.Fits before) (hp : p.Holds policy slots before)
    (hslots : (before ++ v.step.creates.toList).length ≤ slots) :
    q.Holds policy slots (before ++ v.step.creates.toList) := by
  cases h with
  | skipped hskip =>
      refine ⟨hp.size, hp.kindOf_append _, ?_⟩
      intro hpolicy hfailed
      subst hpolicy
      exact Bool.noConfusion (hfailed.symm.trans hskip)
  | @created step kind fields output answer handle _ haction hhandle =>
      rw [Step.Fits, haction] at hfits
      rw [show step.creates = some kind by rw [Step.creates, haction]] at hslots ⊢
      subst hfits
      rw [List.length_append] at hslots
      exact hp.withHandle hslots (Client.kind_of_createdHandle hhandle)
  | uncreated _ _ _ => exact hp.failed _
  | @linked step parent child _ _ _ _ haction _ _ _ =>
      rw [show step.creates = none by rw [Step.creates, haction]]
      simpa using hp
  | unlinked _ _ _ _ _ => exact hp.failed _

end Step

/-! ## A run is a sequence of turns -/

section RunSteps

variable {σ : Type} {c : Client σ} {policy : FailurePolicy} {p q r : Progress} {s t u : σ}
  {outcomes more : List StepOutcome}

theorem Plan.runSteps_cons {step : Step} {rest : List Step} {status : StepStatus}
    (hstep : step.run c policy p s = (status, q, t))
    (hrest : runSteps c policy rest q t = (outcomes, r, u)) :
    runSteps c policy (step :: rest) p s = (⟨step.label, status⟩ :: outcomes, r, u) := by
  simp only [runSteps, hstep, hrest]

theorem Plan.runSteps_append {steps rest : List Step}
    (hsteps : runSteps c policy steps p s = (outcomes, q, t))
    (hrest : runSteps c policy rest q t = (more, r, u)) :
    runSteps c policy (steps ++ rest) p s = (outcomes ++ more, r, u) := by
  induction steps generalizing outcomes p s with
  | nil =>
      cases hsteps
      exact hrest
  | cons step steps ih =>
      rcases hstep : step.run c policy p s with ⟨status, m, v⟩
      rcases hfirst : runSteps c policy steps m v with ⟨first, n, w⟩
      rw [runSteps_cons hstep hfirst] at hsteps
      cases hsteps
      exact runSteps_cons hstep (ih hfirst)

theorem Plan.labels_runSteps (c : Client σ) (policy : FailurePolicy) (steps : List Step)
    (p : Progress) (s : σ) :
    (runSteps c policy steps p s).1.map StepOutcome.label = steps.map Step.label := by
  induction steps generalizing p s with
  | nil => rfl
  | cons step steps ih => exact congrArg (step.label :: ·) (ih _ _)

/-- A report has an outcome for every step, under its label. -/
theorem Plan.labels_run (plan : Plan) (c : Client σ) (policy : FailurePolicy) (s : σ) :
    (plan.run c policy s).1.outcomes.map StepOutcome.label = plan.steps.map Step.label :=
  labels_runSteps c policy plan.steps _ s

theorem Plan.run_of_runSteps {plan : Plan}
    (h : runSteps c policy plan.steps (.start plan.slots.length) s = (outcomes, q, t)) :
    plan.run c policy s = (⟨plan.id, q.handles, outcomes⟩, t) := by
  simp only [run, h]

end RunSteps

theorem Plan.runSteps_turns {σ : Type} (c : Client σ) {policy : FailurePolicy} {slots : Nat}
    {steps : List Step} {before : List EntityKind} {p : Progress}
    (hsteps : Step.Ordered before steps) (hp : p.Holds policy slots before)
    (hslots : (before ++ Step.kinds steps).length ≤ slots) (s : σ) :
    ∃ visits q t, visits.map Visit.step = steps ∧ Turns c.baseUrl policy p visits q ∧
      runSteps c policy steps p s = (visits.map Visit.outcome, q, t) ∧
      ∀ log, runSteps c.logging policy steps p (s, log)
        = (visits.map Visit.outcome, q, t, log ++ visits.filterMap Visit.call) := by
  induction steps generalizing before p s with
  | nil => exact ⟨[], p, s, rfl, .nil, rfl, fun log => by simp [runSteps]⟩
  | cons step rest ih =>
      obtain ⟨v, q, t, rfl, hturn, hrun, hlogged⟩ := Step.run_turn c hsteps.1 hp s
      rw [Step.kinds_cons, ← List.append_assoc] at hslots
      have hq := hturn.holds hsteps.1 hp (Nat.le_trans (by simp) hslots)
      obtain ⟨visits, r, u, rfl, hturns, hrest, hloggedRest⟩ := ih hsteps.2 hq hslots t
      refine ⟨v :: visits, r, u, rfl, .cons hturn hturns, runSteps_cons hrun hrest, fun log => ?_⟩
      rw [filterMap_cons_toList, ← List.append_assoc]
      exact runSteps_cons (hlogged log) (hloggedRest _)

/-- A run of a plan that was built: its turns, its report, and the calls it adds to those made
before. -/
theorem Plan.Built.run_visits {σ : Type} {plan : Plan} (hb : plan.Built) (c : Client σ)
    (policy : FailurePolicy) (s : σ) :
    ∃ visits q t, visits.map Visit.step = plan.steps ∧
      Turns c.baseUrl policy (.start plan.slots.length) visits q ∧
      plan.run c policy s = (⟨plan.id, q.handles, visits.map Visit.outcome⟩, t) ∧
      ∀ log, plan.run c.logging policy (s, log) = (⟨plan.id, q.handles, visits.map Visit.outcome⟩,
        t, log ++ visits.filterMap Visit.call) := by
  obtain ⟨hkinds, hordered⟩ := hb.ordered
  have hslots : ([] ++ Step.kinds plan.steps).length ≤ plan.slots.length :=
    Nat.le_of_eq (by rw [List.nil_append, hkinds, List.length_map])
  obtain ⟨visits, q, t, hsteps, hturns, hrun, hlogged⟩ :=
    runSteps_turns c hordered (Progress.holds_start policy _) hslots s
  exact ⟨visits, q, t, hsteps, hturns, run_of_runSteps hrun,
    fun log => run_of_runSteps (hlogged log)⟩

/-- The same with no calls made before. -/
theorem Plan.Built.run_turns {σ : Type} {plan : Plan} (hb : plan.Built) (c : Client σ)
    (policy : FailurePolicy) (s : σ) :
    ∃ visits q t, visits.map Visit.step = plan.steps ∧
      Turns c.baseUrl policy (.start plan.slots.length) visits q ∧
      plan.run c policy s = (⟨plan.id, q.handles, visits.map Visit.outcome⟩, t) ∧
      plan.run c.logging policy (s, [])
        = (⟨plan.id, q.handles, visits.map Visit.outcome⟩, t, visits.filterMap Visit.call) := by
  obtain ⟨visits, q, t, hsteps, hturns, hrun, hlogged⟩ := hb.run_visits c policy s
  exact ⟨visits, q, t, hsteps, hturns, hrun, hlogged []⟩

/-- A visited create step writes a slot of the plan. -/
theorem Plan.Built.writes_lt {plan : Plan} (hb : plan.Built) {visits : List Visit}
    (hsteps : visits.map Visit.step = plan.steps) {v : Visit} (hv : v ∈ visits) {slot : Nat}
    (hslot : v.step.writes = some slot) : slot < plan.slots.length := by
  have hstep : v.step ∈ plan.steps := hsteps ▸ List.mem_map_of_mem hv
  have hmem : slot ∈ plan.steps.filterMap Step.writes :=
    List.mem_filterMap.mpr ⟨v.step, hstep, hslot⟩
  rw [hb.writes] at hmem
  exact List.mem_range.mp hmem

end Dataspace
