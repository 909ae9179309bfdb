/-
One plan under two policies.

Failing fast asks whether a step has failed, keeping going whether the inputs of
the step are there.  Before the first failure nothing that a plan can read is
missing, so the two questions have one answer and the two runs are one run: the
same requests from the same states, and the same handles.  After it the one run
sends nothing more, and the other writes only slots that the first never reached.
-/
import Dataspace.Proofs.Building
import Dataspace.Proofs.FailFast

namespace Dataspace

/-! ## A step before the first failure -/

theorem Step.reads_lt_of_fits {before : List EntityKind} {step : Step} (hfits : step.Fits before) :
    ∀ slot ∈ step.reads, slot < before.length := by
  intro slot hslot
  cases haction : step.action with
  | create kind fields output => simp [reads, haction] at hslot
  | link parent child =>
      rw [Fits, haction] at hfits
      obtain ⟨parentKind, childKind, hparent, hchild, -⟩ := hfits
      have heq : slot = parent ∨ slot = child := by simpa [reads, haction] using hslot
      rcases heq with rfl | rfl
      · exact (List.getElem?_eq_some_iff.mp hparent).1
      · exact (List.getElem?_eq_some_iff.mp hchild).1

section Step

variable {slots : Nat} {before : List EntityKind} {p : Progress} {step : Step}

/-- What holds of a progress when failing fast holds of it under either policy. -/
theorem Progress.Holds.weaken (hp : p.Holds .failFast slots before) (policy : FailurePolicy) :
    p.Holds policy slots before where
  size := hp.size
  kindOf := hp.kindOf
  filled := fun _ => hp.filled rfl

/-- Before a failure neither policy passes over a step. -/
theorem Step.not_isSkipped (hfits : step.Fits before) (hp : p.Holds .failFast slots before)
    (hfailed : p.failed = false) (policy : FailurePolicy) : step.isSkipped policy p = false := by
  cases policy with
  | failFast => exact hfailed
  | keepGoing =>
      have hready : (step.reads.all fun slot => (p.handle? slot).isSome) = true :=
        List.all_eq_true.mpr fun slot hslot =>
          hp.filled rfl hfailed slot (reads_lt_of_fits hfits slot hslot)
      rw [isSkipped, hready]
      rfl

theorem Step.run_congr {σ : Type} {policy other : FailurePolicy} (c : Client σ)
    (h : step.isSkipped policy p = step.isSkipped other p) (s : σ) :
    step.run c policy p s = step.run c other p s := by
  rw [run, h, ← run]

theorem Turn.of_not_isSkipped {base : String} {policy other : FailurePolicy} {v : Visit}
    {q : Progress} (h : Turn base policy p v q) (hskip : v.step.isSkipped policy p = false)
    (hother : v.step.isSkipped other p = false) : Turn base other p v q := by
  cases h with
  | skipped hskipped => exact Bool.noConfusion (hskip.symm.trans hskipped)
  | created _ haction hhandle => exact .created hother haction hhandle
  | uncreated _ haction hhandle => exact .uncreated hother haction hhandle
  | linked _ haction hparent hchild hresult =>
      exact .linked hother haction hparent hchild hresult
  | unlinked _ haction hparent hchild hresult =>
      exact .unlinked hother haction hparent hchild hresult

/-- Before a failure a step is one turn, whatever the policy. -/
theorem Step.run_turn_both {σ : Type} (c : Client σ) (hfits : step.Fits before)
    (hp : p.Holds .failFast slots before) (hfailed : p.failed = false) (s : σ) :
    ∃ v q t, v.step = step ∧ ∀ policy, Turn c.baseUrl policy p v q ∧
      step.run c policy p s = (v.status, q, t) ∧
      ∀ log, step.run c.logging policy p (s, log) = (v.status, q, t, log ++ v.call.toList) := by
  obtain ⟨v, q, t, rfl, hturn, hrun, hlogged⟩ := Step.run_turn c hfits hp s
  have hskip := Step.not_isSkipped hfits hp hfailed
  have hsame := fun policy => (hskip policy).trans (hskip .failFast).symm
  refine ⟨v, q, t, rfl, fun policy => ⟨?_, ?_, fun log => ?_⟩⟩
  · exact hturn.of_not_isSkipped (hskip .failFast) (hskip policy)
  · exact (Step.run_congr c (hsame policy) s).trans hrun
  · exact (Step.run_congr c.logging (hsame policy) (s, log)).trans (hlogged log)

end Step

/-- A turn that is not passed over is done and no failure, or failed and one. -/
theorem Turn.done_or_failed {base : String} {policy : FailurePolicy} {p q : Progress} {v : Visit}
    (h : Turn base policy p v q) (hskip : v.step.isSkipped policy p = false) :
    v.status = .done ∧ q.failed = p.failed ∨ v.Failed ∧ q.failed = true := by
  cases h with
  | skipped hskipped => exact Bool.noConfusion (hskip.symm.trans hskipped)
  | created _ _ _ | linked _ _ _ _ _ => exact Or.inl ⟨rfl, rfl⟩
  | uncreated _ _ _ | unlinked _ _ _ _ _ => exact Or.inr ⟨⟨_, rfl⟩, rfl⟩

/-! ## The steps up to the first failure -/

/-- The last of the visited steps failed with this error, and those before it are done. -/
def EndsAt (visits : List Visit) (e : ConnectorError) : Prop :=
  ∃ before v, visits = before ++ [v] ∧ (∀ u ∈ before, u.status = .done) ∧ v.status = .failed e

theorem EndsAt.cons {visits : List Visit} {e : ConnectorError} {v : Visit}
    (hv : v.status = .done) (h : EndsAt visits e) : EndsAt (v :: visits) e := by
  obtain ⟨before, w, rfl, hbefore, hw⟩ := h
  exact ⟨v :: before, w, rfl, List.forall_mem_cons.mpr ⟨hv, hbefore⟩, hw⟩

theorem EndsAt.failsAt {visits : List Visit} {e : ConnectorError} (h : EndsAt visits e)
    (after : List Visit) : FailsAt (visits ++ after) e := by
  obtain ⟨before, v, rfl, hbefore, hv⟩ := h
  exact ⟨before, v, after, by simp, hbefore, hv⟩

/-- The visit of a step that is passed over. -/
def Visit.passedOver (step : Step) : Visit :=
  ⟨step, .skipped, none⟩

section Runs

variable {σ : Type} {slots : Nat} {before : List EntityKind} {p q : Progress} {steps : List Step}

/-- Up to and including the first failure, the runs of steps in order are one run. -/
theorem Plan.runSteps_both (c : Client σ) (hsteps : Step.Ordered before steps)
    (hp : p.Holds .failFast slots before) (hfailed : p.failed = false)
    (hslots : (before ++ Step.kinds steps).length ≤ slots) (s : σ) :
    ∃ common rest q t, common.map Visit.step ++ rest = steps ∧
      (∀ policy, Turns c.baseUrl policy p common q ∧
        runSteps c policy (common.map Visit.step) p s = (common.map Visit.outcome, q, t) ∧
        ∀ log, runSteps c.logging policy (common.map Visit.step) p (s, log)
          = (common.map Visit.outcome, q, t, log ++ common.filterMap Visit.call)) ∧
      q.Holds .failFast slots (before ++ Step.kinds (common.map Visit.step)) ∧
      ((∀ v ∈ common, v.status = .done) ∧ rest = [] ∨
        ∃ e, EndsAt common e ∧ q.failed = true) := by
  induction steps generalizing before p s with
  | nil =>
      refine ⟨[], [], p, s, rfl, fun policy => ⟨.nil, rfl, fun log => ?_⟩, ?_, ?_⟩
      · simp [runSteps]
      · simpa [Step.kinds] using hp
      · exact Or.inl ⟨List.forall_mem_nil _, rfl⟩
  | cons step steps ih =>
      obtain ⟨v, m, t, rfl, hboth⟩ := Step.run_turn_both c hsteps.1 hp hfailed s
      have hskip := Step.not_isSkipped hsteps.1 hp hfailed .failFast
      rw [Step.kinds_cons, ← List.append_assoc] at hslots
      have hm := (hboth .failFast).1.holds hsteps.1 hp (Nat.le_trans (by simp) hslots)
      rcases (hboth .failFast).1.done_or_failed hskip with ⟨hv, hgoes⟩ | ⟨⟨e, hv⟩, hstops⟩
      · obtain ⟨common, rest, q, u, rfl, hruns, hq, hend⟩ :=
          ih hsteps.2 hm (hgoes.trans hfailed) hslots t
        refine ⟨v :: common, rest, q, u, rfl, fun policy => ⟨?_, ?_, fun log => ?_⟩, ?_, ?_⟩
        · exact .cons (hboth policy).1 (hruns policy).1
        · exact runSteps_cons (hboth policy).2.1 (hruns policy).2.1
        · rw [filterMap_cons_toList, ← List.append_assoc]
          exact runSteps_cons ((hboth policy).2.2 log) ((hruns policy).2.2 _)
        · rw [List.map_cons, Step.kinds_cons, ← List.append_assoc]
          exact hq
        · rcases hend with ⟨hdone, hrest⟩ | ⟨e, hends, hq⟩
          · exact Or.inl ⟨List.forall_mem_cons.mpr ⟨hv, hdone⟩, hrest⟩
          · exact Or.inr ⟨e, hends.cons hv, hq⟩
      · refine ⟨[v], steps, m, t, rfl, fun policy => ⟨?_, ?_, fun log => ?_⟩, ?_, ?_⟩
        · exact .cons (hboth policy).1 .nil
        · exact runSteps_cons (hboth policy).2.1 rfl
        · rw [filterMap_cons_toList, List.filterMap_nil, List.append_nil]
          exact runSteps_cons ((hboth policy).2.2 log) rfl
        · rw [List.map_cons, Step.kinds_cons]
          simpa [Step.kinds] using hm
        · exact Or.inr ⟨e, ⟨[], v, rfl, List.forall_mem_nil _, hv⟩, hstops⟩

/-- After a failure, failing fast passes over every step and sends nothing. -/
theorem Plan.runSteps_failFast_of_failed (c : Client σ) (hp : p.failed = true) (steps : List Step)
    (s : σ) :
    runSteps c .failFast steps p s = ((steps.map Visit.passedOver).map Visit.outcome, p, s) := by
  induction steps with
  | nil => rfl
  | cons step rest ih =>
      have hstep : step.run c .failFast p s = (.skipped, p, s) := if_pos hp
      exact runSteps_cons hstep ih

end Runs

/-! ## The handles after it -/

section Handles

variable {base : String} {policy : FailurePolicy} {p q : Progress}

/-- A turn changes no slot but the one that its step writes. -/
theorem Turn.handle?_of_not_writes {v : Visit} (h : Turn base policy p v q) {slot : Nat}
    (hslot : v.step.writes ≠ some slot) : q.handle? slot = p.handle? slot := by
  cases h with
  | @created step kind fields output answer handle _ haction _ =>
      have hne : output ≠ slot := by simpa [Step.writes, haction] using hslot
      simp [Progress.handle?, Progress.withHandle, List.getElem?_set_ne hne]
  | skipped _ | uncreated _ _ _ | linked _ _ _ _ _ | unlinked _ _ _ _ _ => rfl

theorem Turns.handle?_of_not_writes {visits : List Visit} (h : Turns base policy p visits q)
    {slot : Nat} (hslot : ∀ v ∈ visits, v.step.writes ≠ some slot) :
    q.handle? slot = p.handle? slot := by
  induction h with
  | nil => rfl
  | cons hturn _ ih =>
      obtain ⟨hv, hrest⟩ := List.forall_mem_cons.mp hslot
      exact (ih hrest).trans (hturn.handle?_of_not_writes hv)

/-- The steps that come after a progress write none of the slots that it has filled. -/
theorem Turns.handle?_kept {slots : Nat} {before : List EntityKind} {visits : List Visit}
    (h : Turns base policy p visits q) (hp : p.Holds policy slots before)
    (hsteps : Step.Ordered before (visits.map Visit.step)) {slot : Nat} {handle : Handle}
    (hslot : p.handle? slot = some handle) : q.handle? slot = some handle := by
  have hlt : slot < before.length := (List.getElem?_eq_some_iff.mp (hp.kindOf slot handle hslot)).1
  refine (h.handle?_of_not_writes fun v hv hwrites => ?_).trans hslot
  have hmem : slot ∈ (visits.map Visit.step).filterMap Step.writes :=
    List.mem_filterMap.mpr ⟨v.step, List.mem_map_of_mem hv, hwrites⟩
  rw [Step.writes_of_ordered hsteps] at hmem
  exact Nat.not_lt.mpr (List.mem_range'_1.mp hmem).1 hlt

end Handles

/-! ## Every plan -/

/-- The two runs of any plan that was built, against one machine from one state.  Up to and
including the first failure they are one run: `common` is what both visited, with the calls that
both made.  Then failing fast passes over every step left and calls no more, and keeping going
makes calls of its own.  Every handle that failing fast obtained is the one that keeping going
obtained for that slot.  If no step fails in one of the runs, the reports, the calls and the states
of the machine are the same. -/
theorem run_policies {σ : Type} {plan : Plan} (hb : plan.Built) (c : Client σ) (s : σ) :
    ∃ common passed onward fast kept t u,
      plan.run c .failFast s = (fast, t) ∧
      plan.run c .keepGoing s = (kept, u) ∧
      plan.run c.logging .failFast (s, []) = (fast, t, common.filterMap Visit.call) ∧
      plan.run c.logging .keepGoing (s, [])
        = (kept, u, common.filterMap Visit.call ++ onward.filterMap Visit.call) ∧
      (common ++ passed).map Visit.step = plan.steps ∧
      (common ++ onward).map Visit.step = plan.steps ∧
      fast.outcomes = (common ++ passed).map Visit.outcome ∧
      kept.outcomes = (common ++ onward).map Visit.outcome ∧
      ((∀ v ∈ common, v.status = .done) ∧ passed = [] ∧ onward = [] ∨
        ∃ e, EndsAt common e ∧ ∀ v ∈ passed, v.status = .skipped) ∧
      (∀ slot handle, fast.handle? slot = some handle → kept.handle? slot = some handle) ∧
      (fast.failures = [] ∨ kept.failures = [] → fast = kept ∧ onward = [] ∧ t = u) := by
  obtain ⟨hkinds, hordered⟩ := hb.ordered
  have hslots : (Step.kinds plan.steps).length ≤ plan.slots.length :=
    Nat.le_of_eq (by rw [hkinds, List.length_map])
  obtain ⟨common, rest, q, t, hsteps, hruns, hq, hend⟩ :=
    Plan.runSteps_both c hordered (Progress.holds_start .failFast _) rfl hslots s
  rw [List.nil_append] at hq
  obtain ⟨-, hfast, hfastLog⟩ := hruns .failFast
  obtain ⟨-, hkept, hkeptLog⟩ := hruns .keepGoing
  rcases hend with ⟨hdone, rfl⟩ | ⟨e, hends, hfailed⟩
  · rw [List.append_nil] at hsteps
    rw [hsteps] at hfast hfastLog hkept hkeptLog
    refine ⟨common, [], [], _, _, t, t, Plan.run_of_runSteps hfast, Plan.run_of_runSteps hkept,
      Plan.run_of_runSteps (hfastLog []), ?_, by simpa using hsteps, by simpa using hsteps,
      by simp, by simp, Or.inl ⟨hdone, rfl, rfl⟩, fun _ _ h => h, fun _ => ⟨rfl, rfl, rfl⟩⟩
    rw [List.filterMap_nil, List.append_nil]
    exact Plan.run_of_runSteps (hkeptLog [])
  · rw [← hsteps] at hordered hslots
    obtain ⟨-, hrest⟩ := hordered.split
    rw [Step.kinds_append] at hslots
    obtain ⟨onward, r, u, rfl, honward, hmore, hmoreLog⟩ :=
      Plan.runSteps_turns c hrest (hq.weaken .keepGoing) hslots t
    have hpassed := Plan.runSteps_failFast_of_failed c hfailed (onward.map Visit.step)
    have hpassedLog := Plan.runSteps_failFast_of_failed c.logging hfailed (onward.map Visit.step)
    have hfastRun := Plan.runSteps_append hfast (hpassed t)
    have hfastRunLog := Plan.runSteps_append (hfastLog []) (hpassedLog _)
    have hkeptRun := Plan.runSteps_append hkept hmore
    have hkeptRunLog := Plan.runSteps_append (hkeptLog []) (hmoreLog _)
    rw [hsteps, ← List.map_append] at hfastRun hfastRunLog hkeptRun hkeptRunLog
    refine ⟨common, (onward.map Visit.step).map .passedOver, onward, _, _, t, u,
      Plan.run_of_runSteps hfastRun, Plan.run_of_runSteps hkeptRun,
      Plan.run_of_runSteps hfastRunLog, Plan.run_of_runSteps hkeptRunLog, ?_, ?_, rfl, rfl, ?_, ?_,
      ?_⟩
    · rw [← hsteps]
      simp [Visit.passedOver, Function.comp_def]
    · rw [← hsteps, List.map_append]
    · refine Or.inr ⟨e, hends, ?_⟩
      simp [Visit.passedOver]
    · intro slot handle
      simp only [Report.handle?]
      split
      · exact honward.handle?_kept (hq.weaken .keepGoing) hrest
      · exact id
    · rintro (h | h)
      · exact absurd h (Report.failures_ne_nil_of_failsAt rfl (hends.failsAt _))
      · exact absurd h (Report.failures_ne_nil_of_failsAt rfl (hends.failsAt _))

/-- Of three entities the second is refused: failing fast leaves it at the two calls made so far,
keeping going makes two more. -/
theorem run_policies_refused :
    let plan := (Plan.new 0).performAll
      [.create "r" .resource .null, .create "c" .contract .null, .create "p" .representation .null,
       .link ⟨0, 0⟩ ⟨0, 1⟩, .link ⟨0, 0⟩ ⟨0, 2⟩]
    let c : Client _ := ⟨"https://c", .scripted⟩
    let answers := [.ok ⟨201, some "https://c/api/resources/1", []⟩, .ok ⟨500, none, []⟩,
      .ok ⟨201, some "https://c/api/representations/1", []⟩, .ok ⟨200, none, []⟩]
    plan.Built ∧ ∃ (common onward : List Visit) (fast kept : Report) (t u : _ × List Call),
      plan.run c.logging .failFast (answers, []) = (fast, t) ∧
      t.2 = common.filterMap Visit.call ∧
      plan.run c.logging .keepGoing (answers, []) = (kept, u) ∧
      u.2 = common.filterMap Visit.call ++ onward.filterMap Visit.call ∧
      (common.filterMap Visit.call).length = 2 ∧ (onward.filterMap Visit.call).length = 2 ∧
      ∃ e, EndsAt common e := by
  intro plan c answers
  have hb : plan.Built := Plan.Built.performAll (.new 0) _
  obtain ⟨common, passed, onward, fast, kept, t, u, -, -, hfast, hkept, -, -, -, -, hend, -, -⟩ :=
    run_policies hb c answers
  have hfastCalls : (common.filterMap Visit.call).length = 2 := by
    have hcalls : (plan.run c.logging .failFast (answers, [])).2.2.length = 2 := by
      decide +kernel
    rw [hfast] at hcalls
    exact hcalls
  have hkeptCalls : (common.filterMap Visit.call ++ onward.filterMap Visit.call).length = 4 := by
    have hcalls : (plan.run c.logging .keepGoing (answers, [])).2.2.length = 4 := by
      decide +kernel
    rw [hkept] at hcalls
    exact hcalls
  have honward : (onward.filterMap Visit.call).length = 2 := by
    rw [List.length_append, hfastCalls] at hkeptCalls
    omega
  refine ⟨hb, common, onward, fast, kept, _, _, hfast, rfl, hkept, rfl, hfastCalls, honward, ?_⟩
  rcases hend with ⟨-, -, rfl⟩ | ⟨e, hends, -⟩
  · cases honward
  · exact ⟨e, hends⟩

end Dataspace
