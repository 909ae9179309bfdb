/-
Runs that stop at the first failure.

When failing fast, the steps up to the first failure are done, the one that
fails is the last for which a request is sent, and the rest are passed over.  The
result of the report is then read off the shape of the run.
-/
import Dataspace.Proofs.Visits

namespace Dataspace

/-- Of the visited steps one failed, those before it are done and those after it passed
over. -/
def StopsAt (visits : List Visit) (e : ConnectorError) : Prop :=
  ∃ before v after, visits = before ++ v :: after ∧ (∀ u ∈ before, u.status = .done) ∧
    v.status = .failed e ∧ ∀ u ∈ after, u.status = .skipped

theorem StopsAt.cons {visits : List Visit} {e : ConnectorError} {v : Visit}
    (hv : v.status = .done) (h : StopsAt visits e) : StopsAt (v :: visits) e := by
  obtain ⟨before, w, after, rfl, hbefore, hw, hafter⟩ := h
  exact ⟨v :: before, w, after, rfl, List.forall_mem_cons.mpr ⟨hv, hbefore⟩, hw, hafter⟩

theorem StopsAt.failsAt {visits : List Visit} {e : ConnectorError} (h : StopsAt visits e) :
    FailsAt visits e := by
  obtain ⟨before, v, after, hvisits, hbefore, hv, -⟩ := h
  exact ⟨before, v, after, hvisits, hbefore, hv⟩

theorem Report.result_of_stopsAt {r : Report} {visits : List Visit} {e : ConnectorError}
    (houtcomes : r.outcomes = visits.map Visit.outcome) (h : StopsAt visits e) :
    r.result = .error e :=
  result_of_failsAt houtcomes h.failsAt

/-! ## The shape of the run -/

namespace Turns

variable {base : String} {p q : Progress} {visits : List Visit}

/-- After a failure every step is passed over. -/
theorem skipped_of_failed (h : Turns base .failFast p visits q) (hp : p.failed = true) :
    ∀ v ∈ visits, v.status = .skipped := by
  induction h with
  | nil => exact List.forall_mem_nil _
  | cons hturn _ ih =>
      cases hturn with
      | skipped _ => exact List.forall_mem_cons.mpr ⟨rfl, ih hp⟩
      | created hskip _ _ | uncreated hskip _ _ | linked hskip _ _ _ _
      | unlinked hskip _ _ _ _ => exact Bool.noConfusion (hskip.symm.trans hp)

theorem done_or_stopsAt (h : Turns base .failFast p visits q) (hp : p.failed = false) :
    (∀ v ∈ visits, v.status = .done) ∨ ∃ e, StopsAt visits e := by
  induction h with
  | nil => exact Or.inl (List.forall_mem_nil _)
  | @cons p m q v rest hturn hrest ih =>
      have hdone : v.status = .done → m.failed = false →
          (∀ u ∈ v :: rest, u.status = .done) ∨ ∃ e, StopsAt (v :: rest) e := by
        intro hv hm
        rcases ih hm with hall | ⟨e, hstops⟩
        · exact Or.inl (List.forall_mem_cons.mpr ⟨hv, hall⟩)
        · exact Or.inr ⟨e, hstops.cons hv⟩
      have hfailed : ∀ e, v.status = .failed e → m.failed = true → StopsAt (v :: rest) e := by
        intro e hv hm
        exact ⟨[], v, rest, rfl, List.forall_mem_nil _, hv, hrest.skipped_of_failed hm⟩
      cases hturn with
      | skipped hskip => exact Bool.noConfusion (hskip.symm.trans hp)
      | created _ _ _ | linked _ _ _ _ _ => exact hdone rfl hp
      | uncreated _ _ _ | unlinked _ _ _ _ _ => exact Or.inr ⟨_, hfailed _ rfl rfl⟩

end Turns

/-! ## Runs without a failure -/

section Complete

variable {σ : Type} {c : Client σ} {p q : Progress} {s t : σ} {step : Step}

/-- An attempt that does not fail leaves it open whether one has failed before. -/
theorem Step.failed_of_attempt (h : step.attempt c p s = (.ok q, t)) : q.failed = p.failed := by
  cases haction : step.action with
  | create kind fields output =>
      simp only [attempt, haction] at h
      rcases hcreate : c.create kind fields s with ⟨result, u⟩
      cases result with
      | error e =>
          rw [bind_error hcreate] at h
          cases h
      | ok handle =>
          rw [bind_ok hcreate] at h
          cases h
          rfl
  | link parent child =>
      simp only [attempt, haction] at h
      cases hparent : p.handle? parent with
      | none =>
          rw [hparent] at h
          cases h
      | some parentHandle =>
          cases hchild : p.handle? child with
          | none =>
              rw [hparent, hchild] at h
              cases h
          | some childHandle =>
              rw [hparent, hchild] at h
              rcases hlink : c.link parentHandle childHandle s with ⟨result, u⟩
              cases result with
              | error e =>
                  simp only [bind_error hlink] at h
                  cases h
              | ok _ =>
                  simp only [bind_ok hlink] at h
                  cases h
                  rfl

theorem Step.run_failFast_of_done (h : step.run c .keepGoing p s = (.done, q, t))
    (hp : p.failed = false) :
    step.run c .failFast p s = (.done, q, t) ∧ q.failed = false := by
  have hskip : step.isSkipped .failFast p = false := hp
  have hattempt : step.attempt c p s = (.ok q, t) := by
    unfold run at h
    split at h
    · cases h
    · rcases hattempt : step.attempt c p s with ⟨result, u⟩
      rw [hattempt] at h
      cases result with
      | ok next =>
          cases h
          rfl
      | error e => cases h
  refine ⟨?_, (failed_of_attempt hattempt).trans hp⟩
  rw [run, hskip, hattempt]
  rfl

theorem Plan.runSteps_failFast_of_done {steps : List Step} {outcomes : List StepOutcome}
    (h : runSteps c .keepGoing steps p s = (outcomes, q, t)) (hp : p.failed = false)
    (hdone : ∀ o ∈ outcomes, o.status = .done) :
    runSteps c .failFast steps p s = (outcomes, q, t) := by
  induction steps generalizing outcomes p s with
  | nil => exact h
  | cons step rest ih =>
      rcases hstep : step.run c .keepGoing p s with ⟨status, m, u⟩
      rcases hrest : runSteps c .keepGoing rest m u with ⟨more, n, w⟩
      rw [runSteps_cons hstep hrest] at h
      cases h
      obtain ⟨hstatus, hmore⟩ := List.forall_mem_cons.mp hdone
      have hstatus' : status = .done := hstatus
      subst hstatus'
      obtain ⟨hfast, hm⟩ := Step.run_failFast_of_done hstep hp
      exact runSteps_cons hfast (ih hrest hm hmore)

/-- A run that is complete when keeping going is the same when failing fast. -/
theorem Plan.run_failFast_of_complete {plan : Plan} {report : Report}
    (h : plan.run c .keepGoing s = (report, t)) (hcomplete : report.isComplete = true) :
    plan.run c .failFast s = (report, t) := by
  rcases hsteps : runSteps c .keepGoing plan.steps (.start plan.slots.length) s with
    ⟨outcomes, q, u⟩
  rw [run_of_runSteps hsteps] at h
  cases h
  refine run_of_runSteps (runSteps_failFast_of_done hsteps rfl ?_)
  intro o ho
  exact beq_iff_eq.mp (List.all_eq_true.mp hcomplete o ho)

end Complete

/-! ## Every run -/

/-- A run of any plan that was built, against any machine that answers.  Every step is visited in
order and has its outcome under its label; the steps are done up to the first failure and passed
over after it, which also decides the result.  The steps that were not passed over made one call
each, in their order: a create step posts its fields to the collection of its kind, a link step
posts its child's URI to its parent's collection, and both URIs are of handles that earlier create
steps of this run were given for the slots that it reads.  A step is done if and only if the answer
to its call is a success, and to a create step one with a handle of its kind.  A slot holds a handle
if and only if the one create step that writes it was done. -/
theorem run_failFast {σ : Type} {plan : Plan} (hb : plan.Built) (c : Client σ) (s : σ) :
    ∃ visits report t,
      plan.run c .failFast s = (report, t) ∧
      plan.run c.logging .failFast (s, []) = (report, t, visits.filterMap Visit.call) ∧
      visits.map Visit.step = plan.steps ∧
      report.outcomes = visits.map Visit.outcome ∧
      ((∀ v ∈ visits, v.status = .done) ∧ report.result = .ok report ∨
        ∃ e, StopsAt visits e ∧ report.result = .error e) ∧
      (∀ v ∈ visits, v.call = none ↔ v.status = .skipped) ∧
      (∀ v ∈ visits, ∀ call, v.call = some call → (v.status = .done ↔ v.step.DoneBy call.2)) ∧
      (∀ before v after call, visits = before ++ v :: after → v.call = some call →
        (∀ kind fields output, v.step.action = .create kind fields output →
          call.1 = .post (c.baseUrl ++ "/api/" ++ kind.collection) (some fields)) ∧
        (∀ parent child, v.step.action = .link parent child → ∃ p q : Handle,
          call.1 = .post (p.uri ++ "/" ++ q.kind.collection) (some (.texts [q.uri])) ∧
          (∃ u ∈ before, u.Gives c.baseUrl parent p) ∧
          ∃ u ∈ before, u.Gives c.baseUrl child q)) ∧
      (∀ slot, (report.handle? slot).isSome = true ↔ slot.plan = plan.id ∧
        ∃ v ∈ visits, v.step.writes = some slot.index ∧ v.status = .done) ∧
      plan.steps.filterMap Step.writes = List.range plan.slots.length := by
  obtain ⟨visits, q, t, hsteps, hturns, hrun, hlogged⟩ := hb.run_turns c .failFast s
  refine ⟨visits, _, t, hrun, hlogged, hsteps, rfl, ?_, hturns.call_eq_none_iff, hturns.done_iff,
    ?_, hb.isSome_handle?_iff hsteps hturns, hb.writes⟩
  · rcases hturns.done_or_stopsAt rfl with hdone | ⟨e, hstops⟩
    · exact Or.inl ⟨hdone, Report.result_of_done rfl hdone⟩
    · exact Or.inr ⟨e, hstops, Report.result_of_stopsAt rfl hstops⟩
  · rintro before v after call rfl hcall
    exact ⟨fun _ _ _ haction => hturns.request_create haction hcall,
      fun _ _ haction => hturns.request_link haction hcall⟩

/-- Two entities are to be created, and the machine answers once. -/
theorem run_failFast_outage :
    let plan := ((Plan.new 0).create "a" .rule .null).create "b" .rule .null
    let c : Client _ := ⟨"https://c", .scripted⟩
    let answers := [.ok ⟨201, some "https://c/api/rules/1", []⟩]
    plan.Built ∧ ∃ visits report t, plan.run c .failFast answers = (report, t) ∧
      visits.map Visit.step = plan.steps ∧ report.outcomes = visits.map Visit.outcome ∧
      ∃ e, StopsAt visits e ∧ report.result = .error e := by
  intro plan c answers
  have hb : plan.Built := .create _ _ _ (.create _ _ _ (.new 0))
  obtain ⟨visits, report, t, hrun, -, hsteps, houtcomes, hshape, -⟩ := run_failFast hb c answers
  refine ⟨hb, visits, report, t, hrun, hsteps, houtcomes, ?_⟩
  rcases hshape with ⟨-, hok⟩ | hstops
  · have hreport : report = (plan.run c .failFast answers).1 := by rw [hrun]
    have hfails : report.result.isOk = false := by
      rw [hreport]
      decide +kernel
    rw [hok] at hfails
    cases hfails
  · exact hstops

end Dataspace
