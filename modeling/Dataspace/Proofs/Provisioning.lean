/-
Provisioning an offer, with what follows it.

The steps of the offer's plan are run first.  If failures are not tolerated, the first
failure ends the command there.  The follow-ups need every entity of the offer, and a link
that failed does not keep them from happening where failures are tolerated.
-/
import Dataspace.Proofs.Excluded
import Dataspace.Proofs.FollowUps

namespace Dataspace

/-! ## After the run of the plan -/

namespace Command

variable {σ η : Type} (p : Partners σ η) (c : Configuration) (o : ProvisionOptions)

/-- What provisioning does once the plan was run. -/
def concluding (slots : OfferSlots) (report : Report) : Command σ η ProvisionSummary := do
  sayAll (report.outcomes.map StepOutcome.line)
  if o.keepGoing then pure ()
  else
    let _ ← during .provisioningOffer (ofExcept .connector report.result)
  match slots.resolve report with
  | some g => followUp p c o report.failures.length g
  | none =>
    return { graph := none
             failedSteps := report.failures.length
             published := none
             eventSent := false
             artifact := none
             download := none }

theorem provisionOffer_eq : provisionOffer p c o = (do
    let (plan, slots) ← ofExcept .connector (Plan.offer 0 c.offerTemplate p.now)
    let report ← observing (plan.run p.client o.policy)
    concluding p c o slots report) := rfl

variable {slots : OfferSlots} {report : Report} (d : Desk σ η)

/-- The desk after the outcomes of the steps were shown. -/
def showing (report : Report) : Desk σ η :=
  { d with printed := d.printed ++ report.outcomes.map StepOutcome.line }

theorem noted_concluding_failed (hkeep : o.keepGoing = false) {e : ConnectorError}
    (hresult : report.result = .error e) :
    Noted Desk.keeping (concluding p c o slots report) (concluding p.logging c o slots report) d
      (.error ⟨[.provisioningOffer], .connector e⟩) (showing d report) [] := by
  unfold concluding
  rw [hkeep, hresult]
  exact .quiet rfl fun _ => rfl

theorem concluding_attends (hgo : o.keepGoing = true ∨ ∃ r, report.result = .ok r)
    {g : OfferGraph} (hg : slots.resolve report = some g) :
    Attends p c g [] o.followUps (Summarizes report.failures.length g)
      (concluding p c o slots report) (concluding p.logging c o slots report) d := by
  have hfollow := followUp_attends p c o report.failures.length g (showing d report)
  unfold concluding
  refine .quiet_bind (m := showing d report) rfl (fun _ => rfl) ?_
  rw [hg]
  cases hkeep : o.keepGoing with
  | true => exact hfollow
  | false =>
      obtain ⟨r, hresult⟩ := hgo.resolve_left (by simp [hkeep])
      rw [hresult]
      exact hfollow

theorem noted_concluding_incomplete (hkeep : o.keepGoing = true)
    (hnone : slots.resolve report = none) :
    Noted Desk.keeping (concluding p c o slots report) (concluding p.logging c o slots report) d
      (.ok ⟨none, report.failures.length, none, false, none, none⟩) (showing d report) [] := by
  unfold concluding
  rw [hkeep, hnone]
  exact .quiet rfl fun _ => rfl

end Command

/-! ## What a run of the plan decides -/

/-- Every create step of the plan is done. -/
def Report.CreatesDone (report : Report) (plan : Plan) : Prop :=
  ∀ pair ∈ plan.steps.zip report.outcomes, pair.1.writes.isSome = true → pair.2.isDone = true

/-- The follow-ups are due: every create step is done and, unless failures are tolerated, every
step. -/
def Report.IsDue (report : Report) (plan : Plan) (o : ProvisionOptions) : Prop :=
  report.CreatesDone plan ∧ (o.keepGoing = true ∨ report.isComplete = true)

instance Report.decidableCreatesDone (report : Report) (plan : Plan) :
    Decidable (report.CreatesDone plan) :=
  inferInstanceAs (Decidable (∀ pair ∈ plan.steps.zip report.outcomes, _ → _))

instance Report.decidableIsDue (report : Report) (plan : Plan) (o : ProvisionOptions) :
    Decidable (report.IsDue plan o) :=
  inferInstanceAs (Decidable (report.CreatesDone plan ∧ _))

/-- One of these calls created the entity with this handle. -/
def Handle.GivenBy (base : String) (calls : List Call) (h : Handle) : Prop :=
  ∃ fields answer, (Client.createRequest base h.kind fields, answer) ∈ calls ∧
    Client.createdHandle base h.kind fields answer = .ok h

section Offers

variable {number : Nat} {t : OfferTemplate} {now : Time.Instant} {plan : Plan} {slots : OfferSlots}
  {base : String} {policy : FailurePolicy} {q : Progress} {visits : List Visit}

/-- An offer has all its handles if and only if all its creates are done. -/
theorem Plan.isSome_resolve_iff (h : Plan.offer number t now = .ok (plan, slots))
    (hsteps : visits.map Visit.step = plan.steps)
    (hturns : Turns base policy (.start plan.slots.length) visits q) :
    (slots.resolve ⟨plan.id, q.handles, visits.map Visit.outcome⟩).isSome = true ↔
      Report.CreatesDone ⟨plan.id, q.handles, visits.map Visit.outcome⟩ plan := by
  rw [Report.CreatesDone, done_zip_iff hsteps]
  refine ⟨?_, isSome_resolve h hsteps hturns⟩
  intro hsome v hv hwrites
  have hb := built_of_offer h
  obtain ⟨g, hg⟩ := Option.isSome_iff_exists.mp hsome
  obtain ⟨contract, rfl, hlength, hsize, hfit⟩ := fits_of_offer h hsteps hturns
  obtain ⟨slot, hslot⟩ := Option.isSome_iff_exists.mp hwrites
  -- what the slots hold are the handles of the offer, so no slot is empty
  have hheld := (OfferSlots.resolve_ofPlan (r := ⟨plan.id, q.handles, visits.map Visit.outcome⟩)
    hfit).mp hg
  have hall : q.handles = g.handles.all.map some := by
    rw [← all_held (hsize.trans hlength), ← Offered.all_map]
    exact congrArg Offered.all hheld
  have hrange : slot < q.handles.length := hsize ▸ hb.writes_lt hsteps hv hslot
  have hhandle : (q.handle? slot).isSome = true := by
    rw [Progress.handle?, List.getElem?_eq_getElem hrange]
    have hmem : q.handles[slot] ∈ g.handles.all.map some := hall ▸ List.getElem_mem hrange
    obtain ⟨handle, -, heq⟩ := List.mem_map.mp hmem
    rw [← heq]
    rfl
  obtain ⟨u, hu, huslot, hdone⟩ :=
    (hturns.isSome_handle?_iff (fun v hv _ => hb.writes_lt hsteps hv) slot).mp hhandle
  rw [hb.eq_of_writes hsteps hv hu hslot huslot]
  exact hdone

/-- A handle in a report was given by a call of the run. -/
theorem Turns.givenBy (hturns : Turns base policy (.start plan.slots.length) visits q)
    {outcomes : List StepOutcome} {kind : EntityKind} {slot : Slot} {handle : Handle}
    (h : Report.handleOfKind? ⟨plan.id, q.handles, outcomes⟩ kind slot = some handle) :
    handle.kind = kind ∧ handle.GivenBy base (visits.filterMap Visit.call) := by
  obtain ⟨hhandle, hkind⟩ := Option.filter_eq_some_iff.mp h
  rw [Report.handle?] at hhandle
  split at hhandle
  · obtain ⟨v, hv, kind', fields, answer, -, -, hcall, hcreated⟩ := hturns.gives_of_handle? hhandle
    obtain rfl := Client.kind_of_createdHandle hcreated
    exact ⟨of_decide_eq_true hkind, fields, answer, List.mem_filterMap.mpr ⟨v, hv, hcall⟩, hcreated⟩
  · cases hhandle

end Offers

/-! ## What provisioning comes to -/

/-- What provisioning comes to after a run of the offer's plan with this report and these calls:
the follow-ups that were visited, and the result. -/
structure Provisioning {σ η : Type} (p : Partners σ η) (c : Configuration) (o : ProvisionOptions)
    (plan : Plan) (slots : OfferSlots) (report : Report) (calls : List Call)
    (visits : List FollowUpVisit) (result : Except CommandError ProvisionSummary) : Prop where
  /-- Follow-ups that are due are visited in turn up to the first that fails, for the resource and
  the artifact that were created in this run. -/
  attended : report.IsDue plan o → ∃ g, slots.resolve report = some g ∧
    (g.resource.kind = .resource ∧ g.resource.GivenBy p.client.baseUrl calls) ∧
    (g.artifact.kind = .artifact ∧ g.artifact.GivenBy p.client.baseUrl calls) ∧
    Attended p c g [] o.followUps visits (failure? result)
  happen_iff : visits ≠ [] ↔ o.followUps ≠ [] ∧ report.IsDue plan o
  /-- Without tolerance the error of the first failed step is that of the command. -/
  failFast : o.keepGoing = false → ∀ e, report.outcomes.findSome? StepOutcome.error? = some e →
    result = .error ⟨[.provisioningOffer], .connector e⟩
  /-- With tolerance only a follow-up makes it fail. -/
  keepGoing : o.keepGoing = true → (∀ v ∈ visits, v.error? = none) →
    ∃ summary, result = .ok summary ∧ summary.failedSteps = report.failures.length
  followUp_failed : ∀ v ∈ visits, ∀ e, v.error? = some e → result = .error e
  /-- No step failed, and every requested follow-up was visited and succeeded. -/
  succeeds_iff : (∃ summary, result = .ok summary ∧ summary.failedSteps = 0) ↔
    report.failures = [] ∧ visits.map FollowUpVisit.what = o.followUps ∧
      ∀ v ∈ visits, v.error? = none

namespace Provisioning

variable {σ η : Type} {p : Partners σ η} {c : Configuration} {o : ProvisionOptions} {plan : Plan}
  {slots : OfferSlots} {report : Report} {calls : List Call} {visits : List FollowUpVisit}
  {result : Except CommandError ProvisionSummary} {g : OfferGraph}

/-- Provisioning that comes to its follow-ups. -/
theorem of_due (hdue : report.IsDue plan o) (hg : slots.resolve report = some g)
    (hresource : g.resource.kind = .resource ∧ g.resource.GivenBy p.client.baseUrl calls)
    (hartifact : g.artifact.kind = .artifact ∧ g.artifact.GivenBy p.client.baseUrl calls)
    (hattended : Attended p c g [] o.followUps visits (failure? result))
    (hends : ∀ summary, result = .ok summary →
      Command.Summarizes report.failures.length g summary)
    (hfirst : o.keepGoing = false → report.outcomes.findSome? StepOutcome.error? = none) :
    Provisioning p c o plan slots report calls visits result where
  attended := fun _ => ⟨g, hg, hresource, hartifact, hattended⟩
  happen_iff := hattended.inTurn.ne_nil_iff.trans (and_iff_left hdue).symm
  failFast := fun hkeep e he => by
    rw [hfirst hkeep] at he
    cases he
  keepGoing := fun _ hnone => by
    obtain ⟨summary, hok⟩ := failure?_eq_none_iff.mp (hattended.inTurn.error_eq_none hnone)
    exact ⟨summary, hok, (hends summary hok).2⟩
  followUp_failed := fun v hv e he => by
    obtain ⟨before, after, hvisits⟩ := List.append_of_mem hv
    exact failure?_eq_some_iff.mp (hattended.inTurn.last_of_some hvisits he).2
  succeeds_iff := by
    rw [← hattended.inTurn.error_eq_none_iff, failure?_eq_none_iff]
    constructor
    · rintro ⟨summary, hok, hzero⟩
      have hlength : report.failures.length = 0 := (hends summary hok).2.symm.trans hzero
      exact ⟨List.length_eq_zero_iff.mp hlength, summary, hok⟩
    · rintro ⟨hnil, summary, hok⟩
      refine ⟨summary, hok, (hends summary hok).2.trans ?_⟩
      rw [hnil]
      rfl

/-- Provisioning that ends before. -/
theorem of_not_due (hdue : ¬ report.IsDue plan o)
    (hfailFast : o.keepGoing = false → ∃ e,
      report.outcomes.findSome? StepOutcome.error? = some e ∧
        result = .error ⟨[.provisioningOffer], .connector e⟩)
    (hkeepGoing : o.keepGoing = true → ∃ summary, result = .ok summary ∧
      summary.failedSteps = report.failures.length)
    (hfailed : report.failures ≠ []) :
    Provisioning p c o plan slots report calls [] result where
  attended := fun h => absurd h hdue
  happen_iff := iff_of_false (fun h => h rfl) fun h => hdue h.2
  failFast := fun hkeep e he => by
    obtain ⟨e', he', hresult⟩ := hfailFast hkeep
    cases he'.symm.trans he
    exact hresult
  keepGoing := fun hkeep _ => hkeepGoing hkeep
  followUp_failed := fun v hv => absurd hv List.not_mem_nil
  succeeds_iff := by
    refine iff_of_false ?_ fun h => hfailed h.1
    rintro ⟨summary, hok, hzero⟩
    cases hkeep : o.keepGoing with
    | false =>
        obtain ⟨e, -, hresult⟩ := hfailFast hkeep
        cases hok.symm.trans hresult
    | true =>
        obtain ⟨summary', hresult, hlength⟩ := hkeepGoing hkeep
        cases hok.symm.trans hresult
        exact hfailed (List.length_eq_zero_iff.mp (hlength.symm.trans hzero))

end Provisioning

namespace Command

variable {σ η : Type} (p : Partners σ η) (c : Configuration) (o : ProvisionOptions)

/-- The run of a plan at the desk. -/
theorem noted_run {plan : Plan} (hb : plan.Built) (d : Desk σ η) :
    ∃ visits q t, visits.map Visit.step = plan.steps ∧
      Turns p.client.baseUrl o.policy (.start plan.slots.length) visits q ∧
      plan.run p.client o.policy d.link = (⟨plan.id, q.handles, visits.map Visit.outcome⟩, t) ∧
      plan.run p.client.logging o.policy (d.link, [])
        = (⟨plan.id, q.handles, visits.map Visit.outcome⟩, t, visits.filterMap Visit.call) ∧
      Noted Desk.keeping (observing (plan.run p.client o.policy))
        (observing (plan.run p.logging.client o.policy)) d
        (.ok ⟨plan.id, q.handles, visits.map Visit.outcome⟩) { d with link := t }
        ((visits.filterMap Visit.call).map .request) := by
  obtain ⟨visits, q, t, hsteps, hturns, hrun, hlogged⟩ := hb.run_visits p.client o.policy d.link
  exact ⟨visits, q, t, hsteps, hturns, hrun, hlogged [], noted_observing hrun hlogged⟩

/-- What provisioning comes to once the plan was run. -/
theorem noted_concluding {plan : Plan} {slots : OfferSlots}
    (hoffer : Plan.offer 0 c.offerTemplate p.now = .ok (plan, slots)) {visits : List Visit}
    {q : Progress} (hsteps : visits.map Visit.step = plan.steps)
    (hturns : Turns p.client.baseUrl o.policy (.start plan.slots.length) visits q)
    {report : Report} (hreport : report = ⟨plan.id, q.handles, visits.map Visit.outcome⟩)
    (d : Desk σ η) :
    ∃ followUps result d', Noted Desk.keeping (concluding p c o slots report)
        (concluding p.logging c o slots report) d result d'
        (followUps.flatMap FollowUpVisit.contacts) ∧
      Provisioning p c o plan slots report (visits.filterMap Visit.call) followUps result := by
  have hb := Plan.built_of_offer hoffer
  have hresolve := Plan.isSome_resolve_iff hoffer hsteps hturns
  have houtcomes : report.outcomes = visits.map Visit.outcome := by rw [hreport]
  rw [← hreport] at hresolve
  have hattends : report.IsDue plan o → (o.keepGoing = true ∨ ∃ r, report.result = .ok r) →
      (o.keepGoing = false → report.outcomes.findSome? StepOutcome.error? = none) →
      ∃ followUps result d', Noted Desk.keeping (concluding p c o slots report)
          (concluding p.logging c o slots report) d result d'
          (followUps.flatMap FollowUpVisit.contacts) ∧
        Provisioning p c o plan slots report (visits.filterMap Visit.call) followUps result := by
    intro hdue hgo hfirst
    obtain ⟨g, hg⟩ := Option.isSome_iff_exists.mp (hresolve.mpr hdue.1)
    obtain ⟨-, hresource, -, -, -, hartifact, -⟩ := OfferSlots.resolve_eq_some_iff.mp hg
    rw [hreport] at hresource hartifact
    obtain ⟨followUps, result, d', hnoted, hattended, hends⟩ := concluding_attends p c o d hgo hg
    exact ⟨followUps, result, d', hnoted, .of_due hdue hg (hturns.givenBy hresource)
      (hturns.givenBy hartifact) hattended hends hfirst⟩
  rcases hb.done_or_failsAt hsteps hturns with hdone | ⟨e, hfails⟩
  · have hcreates : report.CreatesDone plan := by
      rw [Report.CreatesDone, houtcomes]
      exact (done_zip_iff hsteps).mpr fun v hv _ => hdone v hv
    exact hattends ⟨hcreates, .inr ((Report.isComplete_iff houtcomes).mpr hdone)⟩
      (.inr ⟨_, Report.result_of_done houtcomes hdone⟩)
      fun _ => Report.first_error_of_done houtcomes hdone
  · have hfirst := Report.first_error_of_failsAt houtcomes hfails
    have hfailed := Report.failures_ne_nil_of_failsAt houtcomes hfails
    cases hkeep : o.keepGoing with
    | false =>
        have hdue : ¬ report.IsDue plan o := by
          rintro ⟨-, htolerated | hcomplete⟩
          · cases hkeep.symm.trans htolerated
          · exact Report.not_isComplete_of_failsAt houtcomes hfails hcomplete
        exact ⟨[], _, _, noted_concluding_failed p c o d hkeep
          (Report.result_of_failsAt houtcomes hfails),
          .of_not_due hdue (fun _ => ⟨e, hfirst, rfl⟩)
            (fun htolerated => by cases hkeep.symm.trans htolerated) hfailed⟩
    | true =>
        by_cases hcreates : report.CreatesDone plan
        · exact hattends ⟨hcreates, .inl hkeep⟩ (.inl hkeep)
            fun hnot => by cases hkeep.symm.trans hnot
        · have hnone : slots.resolve report = none := by
            rw [← Option.not_isSome_iff_eq_none, hresolve]
            exact hcreates
          exact ⟨[], _, _, noted_concluding_incomplete p c o d hkeep hnone,
            .of_not_due (fun hdue => hcreates hdue.1)
              (fun hnot => by cases hkeep.symm.trans hnot) (fun _ => ⟨_, rfl, rfl⟩) hfailed⟩

theorem noted_provisionOffer {plan : Plan} {slots : OfferSlots}
    (hoffer : Plan.offer 0 c.offerTemplate p.now = .ok (plan, slots)) {d m d' : Desk σ η}
    {report : Report} {result : Except CommandError ProvisionSummary} {notes more : List Contact}
    (hrun : Noted Desk.keeping (observing (plan.run p.client o.policy))
      (observing (plan.run p.logging.client o.policy)) d (.ok report) m notes)
    (hrest : Noted Desk.keeping (concluding p c o slots report)
      (concluding p.logging c o slots report) m result d' more) :
    Noted Desk.keeping (provisionOffer p c o) (provisionOffer p.logging c o) d result d'
      (notes ++ more) := by
  rw [provisionOffer_eq, provisionOffer_eq]
  refine .quiet_bind (a := (plan, slots)) ?_ (fun log => ?_) (hrun.bind_ok hrest)
  · rw [hoffer]
    rfl
  · show ofExcept .connector (Plan.offer 0 c.offerTemplate p.now) _ = _
    rw [hoffer]
    rfl

/-- As a whole the command fails in the end if a step failed. -/
theorem noted_provision {d d' : Desk σ η} {result : Except CommandError ProvisionSummary}
    {contacts : List Contact}
    (h : Noted Desk.keeping (provisionOffer p c o) (provisionOffer p.logging c o) d result d'
      contacts) :
    ∃ outcome, Noted Desk.keeping (provision p c o) (provision p.logging c o) d outcome d'
        contacts ∧
      (outcome = .ok () ↔ ∃ summary, result = .ok summary ∧ summary.failedSteps = 0) := by
  cases result with
  | error e => exact ⟨.error e, h.bind_error, iff_of_false nofun fun ⟨_, hok, _⟩ => nomatch hok⟩
  | ok summary =>
      by_cases hzero : summary.failedSteps = 0
      · refine ⟨.ok (), h.bind_quiet ?_ fun log => ?_, iff_of_true rfl ⟨summary, rfl, hzero⟩⟩
        · rw [if_pos hzero]
          rfl
        · rw [if_pos hzero]
          rfl
      · refine ⟨.error ⟨[], .stepsFailed summary.failedSteps⟩, h.bind_quiet ?_ fun log => ?_,
          iff_of_false nofun ?_⟩
        · rw [if_neg hzero]
          rfl
        · rw [if_neg hzero]
          rfl
        · rintro ⟨other, hok, hother⟩
          cases hok
          exact hzero hother

/-- The whole command: the run of the offer's plan, its follow-ups, and whom it contacted. -/
theorem noted_provisioning (d : Desk σ η)
    (hnow : c.offerTemplate.contract = none → (ContractPayload.fromNow? p.now).isSome = true) :
    ∃ plan slots visits q t followUps result outcome d',
      Plan.offer 0 c.offerTemplate p.now = .ok (plan, slots) ∧
      visits.map Visit.step = plan.steps ∧
      Turns p.client.baseUrl o.policy (.start plan.slots.length) visits q ∧
      plan.run p.client.logging o.policy (d.link, [])
        = (⟨plan.id, q.handles, visits.map Visit.outcome⟩, t, visits.filterMap Visit.call) ∧
      Provisioning p c o plan slots ⟨plan.id, q.handles, visits.map Visit.outcome⟩
        (visits.filterMap Visit.call) followUps result ∧
      Noted Desk.keeping (provision p c o) (provision p.logging c o) d outcome d'
        ((visits.filterMap Visit.call).map .request ++
          followUps.flatMap FollowUpVisit.contacts) ∧
      (outcome = .ok () ↔ ∃ summary, result = .ok summary ∧ summary.failedSteps = 0) := by
  obtain ⟨contract, hcontract⟩ := c.offerTemplate.exists_contractOrNow hnow
  obtain ⟨plan, links, hoffer, -⟩ := Plan.offer_eq hcontract 0
  obtain ⟨visits, q, t, hsteps, hturns, -, hlogged, hnoted⟩ :=
    noted_run p o (Plan.built_of_offer hoffer) d
  obtain ⟨followUps, result, d', hrest, hprovisioning⟩ :=
    noted_concluding p c o hoffer hsteps hturns rfl { d with link := t }
  obtain ⟨outcome, hcommand, hsucceeds⟩ :=
    noted_provision p c o (noted_provisionOffer p c o hoffer hnoted hrest)
  exact ⟨plan, _, visits, q, t, followUps, result, outcome, d', hoffer, hsteps, hturns, hlogged,
    hprovisioning, hcommand, hsucceeds⟩

end Command

/-- Provisioning for any configuration and options, with partners that answer in any way, from any
state of theirs; the time is in range if the offer has no contract.  The plan of the offer is run,
and its requests are none of the follow-ups'.  What was asked of the partners altogether are these
requests and the contacts of the follow-ups, and `Provisioning` says which follow-ups there are and
what the result is.  The command succeeds if and only if no step failed and every requested
follow-up succeeded. -/
theorem provision_followUps {σ η : Type} (p : Partners σ η) (c : Configuration)
    (o : ProvisionOptions) (d : Desk σ η)
    (hnow : c.offerTemplate.contract = none →
      (ContractPayload.fromNow? p.now).isSome = true) :
    ∃ plan slots report t calls followUps result outcome d',
      Plan.offer 0 c.offerTemplate p.now = .ok (plan, slots) ∧
      plan.run p.client o.policy d.link = (report, t) ∧
      plan.run p.client.logging o.policy (d.link, []) = (report, t, calls) ∧
      (∀ call ∈ calls, call.1.method = .post ∧ call.1.url ≠ p.client.url webhookPath) ∧
      Provisioning p c o plan slots report calls followUps result ∧
      Command.provisionOffer p c o d = (result, d') ∧
      Command.provision p c o d = (outcome, d') ∧
      Command.provision p.logging c o (d.keeping []) = (outcome, d'.keeping
        (calls.map .request ++ followUps.flatMap FollowUpVisit.contacts)) ∧
      (outcome = .ok () ↔ report.failures = [] ∧
        followUps.map FollowUpVisit.what = o.followUps ∧ ∀ v ∈ followUps, v.error? = none) := by
  obtain ⟨contract, hcontract⟩ := c.offerTemplate.exists_contractOrNow hnow
  obtain ⟨plan, links, hoffer, -⟩ := Plan.offer_eq hcontract 0
  obtain ⟨visits, q, t, hsteps, hturns, hrun, hlogged, hnoted⟩ :=
    Command.noted_run p o (Plan.built_of_offer hoffer) d
  obtain ⟨followUps, result, d', hrest, hprovisioning⟩ :=
    Command.noted_concluding p c o hoffer hsteps hturns rfl { d with link := t }
  have hall := Command.noted_provisionOffer p c o hoffer hnoted hrest
  obtain ⟨outcome, hcommand, hsucceeds⟩ := Command.noted_provision p c o hall
  refine ⟨plan, _, _, t, _, followUps, result, outcome, d', hoffer, hrun, hlogged, ?_,
    hprovisioning, hall.plain, hcommand.plain, hcommand.noted [], ?_⟩
  · intro call hcall
    obtain ⟨front, kind, body, hrequest⟩ := hturns.request_post call hcall
    rw [hrequest]
    exact ⟨rfl, append_collection_ne (c := 'y') (by decide +kernel) (by decide) _ _ _⟩
  · exact hsucceeds.trans hprovisioning.succeeds_iff

/-- One link is refused where failures are tolerated: the event is sent nonetheless, and the
command fails. -/
theorem provision_followUps_link_refused :
    let p : Partners _ Unit := ⟨⟨"https://c", .scripted⟩, .idle, ⟨0, 0⟩⟩
    let t := { OfferTemplate.negotiation with contract := some ⟨"a", "b"⟩, endpoints := [] }
    let c : Configuration := ⟨⟨"https://c", "u", "p", false, 5, none⟩, .remote,
      ⟨some "registry", some "apps", none, none⟩, ⟨none, none⟩, some t, .empty⟩
    let o : ProvisionOptions := ⟨true, false, true, false, "/"⟩
    let created := [.catalog, .resource, .representation, .app, .artifact, .contract, .rule].map
      fun kind : EntityKind => .ok ⟨201, some ("https://c/api/" ++ kind.collection ++ "/1"), []⟩
    let refused := .ok ⟨500, none, []⟩ :: List.replicate 6 (.ok ⟨200, none, []⟩)
    let d : Desk _ Unit := .start (created ++ refused) () ⟨"/", [], []⟩
    (c.offerTemplate.contract = none → (ContractPayload.fromNow? p.now).isSome = true) ∧
      ∃ (calls : List Call) (followUps : List FollowUpVisit),
        followUps.map FollowUpVisit.what = [.event] ∧
        (Command.provision p.logging c o (d.keeping [])).2 = (Command.provision p c o d).2.keeping
          (calls.map .request ++ followUps.flatMap FollowUpVisit.contacts) ∧
        (Command.provision p c o d).1 ≠ .ok () := by
  intro p t c o created refused d
  have hnow : c.offerTemplate.contract = none → (ContractPayload.fromNow? p.now).isSome = true :=
    nofun
  obtain ⟨plan, slots, report, u, calls, followUps, result, outcome, d', hoffer, hrun, -, -,
    hprovisioning, -, hcommand, hnoted, hsucceeds⟩ := provision_followUps p c o d hnow
  have hfacts : (match Plan.offer 0 c.offerTemplate p.now with
      | .ok (plan, _) =>
        let report := (plan.run p.client o.policy d.link).1
        decide (report.IsDue plan o ∧ report.failures.length = 1)
      | .error _ => false) = true := by
    decide +kernel
  rw [hoffer] at hfacts
  simp only [hrun, decide_eq_true_eq] at hfacts
  obtain ⟨hdue, hlength⟩ := hfacts
  obtain ⟨g, -, -, -, hattended⟩ := hprovisioning.attended hdue
  have hne : followUps ≠ [] := hprovisioning.happen_iff.mpr ⟨by decide, hdue⟩
  have hprefix : followUps.map FollowUpVisit.what <+: [.event] := hattended.inTurn.tasks_prefix
  refine ⟨hnow, calls, followUps, ?_, ?_, ?_⟩
  · rcases List.prefix_cons_iff.mp hprefix with hnil | ⟨rest, hrest, hshort⟩
    · exact absurd (List.map_eq_nil_iff.mp hnil) hne
    · rw [hrest, List.prefix_nil.mp hshort]
  · rw [hnoted, hcommand]
  · rw [hcommand]
    intro hok
    rw [(hsucceeds.mp hok).1] at hlength
    cases hlength

/-- Tolerated failures of links do not make up for a failed follow-up: with one link refused and no
image to publish, there is no number of failed steps to return but an error. -/
theorem provisionOffer_keepGoing_not_ok :
    let p : Partners _ Unit := ⟨⟨"https://c", .scripted⟩, .idle, ⟨0, 0⟩⟩
    let t := { OfferTemplate.negotiation with contract := some ⟨"a", "b"⟩, endpoints := [] }
    let c : Configuration := ⟨⟨"https://c", "u", "p", false, 5, none⟩, .remote,
      .empty, ⟨none, none⟩, some t, .empty⟩
    let o : ProvisionOptions := ⟨true, true, false, false, "/"⟩
    let created := [.catalog, .resource, .representation, .app, .artifact, .contract, .rule].map
      fun kind : EntityKind => .ok ⟨201, some ("https://c/api/" ++ kind.collection ++ "/1"), []⟩
    let refused := .ok ⟨500, none, []⟩ :: List.replicate 6 (.ok ⟨200, none, []⟩)
    let d : Desk _ Unit := .start (created ++ refused) () ⟨"/", [], []⟩
    o.keepGoing = true ∧
      (∃ plan slots, Plan.offer 0 c.offerTemplate p.now = .ok (plan, slots) ∧
        (plan.run p.client o.policy d.link).1.failures.length = 1) ∧
      ¬ ∃ summary, (Command.provisionOffer p c o d).1 = .ok summary := by
  intro p t c o created refused d
  refine ⟨rfl, ?_, ?_⟩
  · have hfacts : (match Plan.offer 0 c.offerTemplate p.now with
        | .ok (plan, _) => decide ((plan.run p.client o.policy d.link).1.failures.length = 1)
        | .error _ => false) = true := by
      decide +kernel
    cases hoffer : Plan.offer 0 c.offerTemplate p.now with
    | error e =>
        rw [hoffer] at hfacts
        cases hfacts
    | ok pair =>
        obtain ⟨plan, slots⟩ := pair
        rw [hoffer] at hfacts
        exact ⟨plan, slots, rfl, of_decide_eq_true hfacts⟩
  · have hfails : (Command.provisionOffer p c o d).1.isOk = false := by
      decide +kernel
    rintro ⟨summary, hok⟩
    rw [hok] at hfails
    cases hfails

end Dataspace
