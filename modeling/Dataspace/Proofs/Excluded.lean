/-
What no run of a plan comes to.

A plan that was built asks only for links that go together, and a handle that an
answer gives is taken only if it is of the kind asked for.  So whatever a machine
answers, the errors of a run are about its answers: no step fails for want of its
inputs or because its handles do not go together, no run is incomplete without an
error, and an offer whose entities were all created has all its handles.
-/
import Dataspace.Command.Negotiate
import Dataspace.Proofs.Commands
import Dataspace.Proofs.KeepGoing
import Dataspace.Proofs.OfferRun

namespace Dataspace

/-! ## Errors about answers -/

/-- The error is about an answer, or says that none came. -/
def ConnectorError.OfAnswer : ConnectorError → Prop
  | .request .. | .staleHandle .. | .responseFormat .. | .transport .. => True
  | .invalidHandle _ | .invalidPlan _ | .contractWindow _ | .write .. => False

namespace Client

theorem ofAnswer_of_accept {r : Request} {answer : Except Outage Response} {e : ConnectorError}
    (h : accept r answer = .error e) : e.OfAnswer := by
  cases answer with
  | error outage =>
      cases h
      trivial
  | ok response =>
      by_cases hsuccess : response.isSuccess = true
      · simp [accept, hsuccess] at h
      · simp only [accept, hsuccess, Bool.false_eq_true, if_false, Except.error.injEq] at h
        subst h
        trivial

theorem ofAnswer_of_locationHandle {url : String} {response : Response} {e : ConnectorError}
    (h : locationHandle url response = .error e) : e.OfAnswer := by
  unfold locationHandle at h
  split at h
  · cases h
    trivial
  · split at h
    · cases h
    · cases h
      trivial

theorem ofAnswer_of_postedHandle {url : String} {body : Json} {answer : Except Outage Response}
    {e : ConnectorError} (h : postedHandle url body answer = .error e) : e.OfAnswer := by
  unfold postedHandle at h
  cases haccept : accept (.post url (some body)) answer with
  | error e' =>
      simp only [haccept, Except.bind, Except.error.injEq] at h
      exact h ▸ ofAnswer_of_accept haccept
  | ok response =>
      simp only [haccept, Except.bind] at h
      exact ofAnswer_of_locationHandle h

theorem ofAnswer_of_createdHandle {base : String} {kind : EntityKind} {fields : Json}
    {answer : Except Outage Response} {e : ConnectorError}
    (h : createdHandle base kind fields answer = .error e) : e.OfAnswer := by
  unfold createdHandle at h
  split at h
  · rename_i e' hposted
    cases h
    exact ofAnswer_of_postedHandle hposted
  · split at h
    · cases h
    · cases h
      trivial

theorem ofAnswer_staleOn404 {e : ConnectorError} (h : e.OfAnswer) (url : String) :
    (staleOn404 url e).OfAnswer := by
  unfold staleOn404
  split
  · split <;> trivial
  · exact h

theorem ofAnswer_of_linkResult {parent child : Handle} {answer : Except Outage Response}
    {e : ConnectorError} (h : linkResult parent child answer = .error e) : e.OfAnswer := by
  unfold linkResult at h
  split at h
  · rename_i e' haccept
    cases h
    exact ofAnswer_staleOn404 (ofAnswer_of_accept haccept) _
  · cases h

end Client

/-! ## Runs -/

section Runs

variable {base : String} {policy : FailurePolicy} {p q : Progress} {v : Visit} {visits : List Visit}
  {plan : Plan}

theorem Turn.ofAnswer (h : Turn base policy p v q) {e : ConnectorError}
    (he : v.status = .failed e) : e.OfAnswer := by
  cases h with
  | skipped _ | created _ _ _ | linked _ _ _ _ _ => cases he
  | uncreated _ _ hcreated =>
      cases he
      exact Client.ofAnswer_of_createdHandle hcreated
  | unlinked _ _ _ _ hlinked =>
      cases he
      exact Client.ofAnswer_of_linkResult hlinked

theorem Turns.ofAnswer (h : Turns base policy p visits q) {e : ConnectorError} (hv : v ∈ visits)
    (he : v.status = .failed e) : e.OfAnswer := by
  induction h with
  | nil => exact absurd hv List.not_mem_nil
  | cons hturn _ ih =>
      rcases List.mem_cons.mp hv with rfl | hv
      · exact hturn.ofAnswer he
      · exact ih hv

/-- Under either policy, every step up to the first failure is done. -/
theorem Plan.Built.done_or_failsAt (hb : plan.Built) (hsteps : visits.map Visit.step = plan.steps)
    (h : Turns base policy (.start plan.slots.length) visits q) :
    (∀ v ∈ visits, v.status = .done) ∨ ∃ e, FailsAt visits e := by
  cases policy with
  | failFast => exact (h.done_or_stopsAt rfl).imp_right fun ⟨e, hstops⟩ => ⟨e, hstops.failsAt⟩
  | keepGoing => exact h.done_or_failsAt hb hsteps

/-- The result of a report, or the error of a step. -/
theorem Plan.Built.result_cases (hb : plan.Built) (hsteps : visits.map Visit.step = plan.steps)
    (h : Turns base policy (.start plan.slots.length) visits q) {r : Report}
    (houtcomes : r.outcomes = visits.map Visit.outcome) :
    r.result = .ok r ∨ ∃ e, r.result = .error e ∧ ∃ v ∈ visits, v.status = .failed e := by
  rcases hb.done_or_failsAt hsteps h with hdone | ⟨e, hfails⟩
  · exact Or.inl (Report.result_of_done houtcomes hdone)
  · refine Or.inr ⟨e, Report.result_of_failsAt houtcomes hfails, ?_⟩
    obtain ⟨before, v, after, rfl, -, hv⟩ := hfails
    exact ⟨v, by simp, hv⟩

end Runs

/-! ## Offers -/

section Offers

variable {number : Nat} {t : OfferTemplate} {now : Time.Instant} {plan : Plan} {slots : OfferSlots}

/-- An offer whose plan exists has a contract, and slots for its entities in order. -/
theorem Plan.offer_ok (h : Plan.offer number t now = .ok (plan, slots)) :
    ∃ contract, t.contractOrNow? now = some contract ∧
      slots = .ofPlan plan.id t.endpoints.length ∧
      plan.slots.map SlotInfo.kind = (t.entities contract).all.map Entity.kind := by
  cases hcontract : t.contractOrNow? now with
  | none => simp [Plan.offer, hcontract] at h
  | some contract =>
      obtain ⟨plan', links, hoffer, hid, -⟩ := Plan.offer_eq hcontract number
      cases hoffer.symm.trans h
      refine ⟨contract, rfl, by rw [hid], ?_⟩
      have hcreates := Plan.creates_of_offer hcontract h
      have hkinds : Step.kinds plan.steps = (plan.steps.map Step.creates).filterMap fun o => o := by
        rw [List.filterMap_map]
        rfl
      have hlinks : (List.replicate (6 + t.endpoints.length) (none : Option EntityKind)).filterMap
          (fun o => o) = [] := List.filterMap_replicate_of_none rfl
      rw [← (Plan.built_of_offer h).ordered.1, hkinds, hcreates, List.filterMap_append, hlinks,
        List.append_nil, List.filterMap_map]
      exact congrFun List.filterMap_eq_map _

/-- A run of an offer has a place for each entity, and what is there is of the entity's kind. -/
theorem Plan.fits_of_offer {base : String} {policy : FailurePolicy} {q : Progress}
    {visits : List Visit} (h : Plan.offer number t now = .ok (plan, slots))
    (hsteps : visits.map Visit.step = plan.steps)
    (hturns : Turns base policy (.start plan.slots.length) visits q) :
    ∃ contract, slots = .ofPlan plan.id t.endpoints.length ∧
      plan.slots.length = 7 + t.endpoints.length ∧ q.handles.length = plan.slots.length ∧
      ∀ (i : Nat) (e : Entity) (handle : Handle), (t.entities contract).all[i]? = some e →
        q.handles[i]?.join = some handle → handle.kind = e.kind := by
  have hb := built_of_offer h
  obtain ⟨contract, -, hslots, hkinds⟩ := offer_ok h
  have hlength : plan.slots.length = 7 + t.endpoints.length := by
    rw [← List.length_map SlotInfo.kind, hkinds, List.length_map, t.length_all_entities contract]
  have hsize : q.handles.length = plan.slots.length := by
    rw [hturns.length_handles, Progress.start, List.length_replicate]
  refine ⟨contract, hslots, hlength, hsize, ?_⟩
  intro i e handle he hhandle
  obtain ⟨v, hv, hgives⟩ := hturns.gives_of_handle? hhandle
  have hobtained := hgives.obtained hb hv (hsteps ▸ List.mem_map_of_mem hv)
  have hkind := hobtained.kind
  rw [← List.getElem?_map, hkinds, List.getElem?_map, he] at hkind
  exact (Option.some.inj hkind).symm

/-- When all creates of an offer are done, it has all its handles. -/
theorem Plan.isSome_resolve {base : String} {policy : FailurePolicy} {q : Progress}
    {visits : List Visit} (h : Plan.offer number t now = .ok (plan, slots))
    (hsteps : visits.map Visit.step = plan.steps)
    (hturns : Turns base policy (.start plan.slots.length) visits q)
    (hdone : ∀ v ∈ visits, v.step.writes.isSome = true → v.status = .done) :
    (slots.resolve ⟨plan.id, q.handles, visits.map Visit.outcome⟩).isSome = true := by
  have hb := built_of_offer h
  obtain ⟨contract, rfl, hlength, hsize, hfit⟩ := fits_of_offer h hsteps hturns
  refine OfferSlots.isSome_resolve (r := ⟨plan.id, q.handles, visits.map Visit.outcome⟩) hfit
    (hsize.trans hlength) ?_
  intro x hx
  obtain ⟨i, hi, rfl⟩ := List.getElem_of_mem hx
  have hrange : i < q.handles.length := hi
  have hwritten : ∃ v ∈ visits, v.step.writes = some i := by
    have hmem : i ∈ plan.steps.filterMap Step.writes := by
      rw [hb.writes]
      exact List.mem_range.mpr (hsize ▸ hrange)
    obtain ⟨step, hstep, hwrites⟩ := List.mem_filterMap.mp hmem
    rw [← hsteps] at hstep
    obtain ⟨v, hv, rfl⟩ := List.mem_map.mp hstep
    exact ⟨v, hv, hwrites⟩
  obtain ⟨v, hv, hwrites⟩ := hwritten
  have hsome := (hturns.isSome_handle?_iff (fun v hv _ => hb.writes_lt hsteps hv) i).mpr
    ⟨v, hv, hwrites, hdone v hv (by rw [hwrites]; rfl)⟩
  simpa [Progress.handle?, hrange] using hsome

/-- The steps of a run with their outcomes say which visits were done. -/
theorem done_zip_iff {steps : List Step} {visits : List Visit}
    (hsteps : visits.map Visit.step = steps) :
    (∀ pair ∈ steps.zip (visits.map Visit.outcome),
      pair.1.writes.isSome = true → pair.2.isDone = true) ↔
    ∀ v ∈ visits, v.step.writes.isSome = true → v.status = .done := by
  rw [← hsteps, List.zip_map', List.forall_mem_map]
  exact forall₂_congr fun v _ => imp_congr_right fun _ => beq_iff_eq

theorem done_of_zip {steps : List Step} {visits : List Visit}
    (hsteps : visits.map Visit.step = steps)
    (h : ∀ pair ∈ steps.zip (visits.map Visit.outcome),
      pair.1.writes.isSome = true → pair.2.isDone = true) :
    ∀ v ∈ visits, v.step.writes.isSome = true → v.status = .done :=
  (done_zip_iff hsteps).mp h

end Offers

/-! ## The negotiation -/

section Negotiation

variable {σ η : Type}

/-- An offer that was provisioned without an error has all its handles. -/
theorem Plan.resolve_of_result {number : Nat} {t : OfferTemplate} {now : Time.Instant}
    {plan : Plan} {slots : OfferSlots} (h : Plan.offer number t now = .ok (plan, slots))
    (c : Client σ) (policy : FailurePolicy) (s : σ) {report : Report}
    (hresult : (plan.run c policy s).1.result = .ok report) :
    (slots.resolve report).isSome = true := by
  have hb := built_of_offer h
  obtain ⟨visits, q, t, hsteps, hturns, hrun, -⟩ := hb.run_turns c policy s
  rw [hrun] at hresult
  rcases hb.done_or_failsAt hsteps hturns with hdone | ⟨e, hfails⟩
  · rw [Report.result_of_done rfl hdone] at hresult
    cases hresult
    exact isSome_resolve h hsteps hturns fun v hv _ => hdone v hv
  · rw [Report.result_of_failsAt rfl hfails] at hresult
    cases hresult

namespace Command

/-- Provisioning never ends for want of a handle. -/
theorem FailsWith.provisionNegotiated (p : Partners σ η) (c : Configuration) :
    FailsWith OfConnector (Command.provisionNegotiated p c) := by
  refine .bind (.ofExcept (fun e => ⟨e, rfl⟩) _) ?_
  rintro d ⟨plan, slots⟩ d' hoffer
  refine .bind (.observing _ _) ?_
  intro e report e' hrun
  refine .bind (.during (.ofExcept (fun e => ⟨e, rfl⟩) _) _) ?_
  intro f complete f' hresult
  have hreport : report = (plan.run p.client .failFast e.link).1 := by
    cases hrun
    rfl
  have hsome : (slots.resolve complete).isSome = true := by
    refine Plan.resolve_of_result (eq_of_ofExcept hoffer).1 p.client .failFast e.link ?_
    rw [← hreport]
    exact (eq_of_ofExcept (ok_of_during hresult)).1
  obtain ⟨g, hg⟩ := Option.isSome_iff_exists.mp hsome
  simp only [hg]
  exact .pure _ g

theorem FailsWith.negotiateOffer (p : Partners σ η) (c : Configuration) (recipient : String) :
    FailsWith OfConnector (Command.negotiateOffer p c recipient) := by
  refine .bind (.provisionNegotiated p c) ?_
  intro _ g _ _
  refine .bind (.sayAll _ _) ?_
  intro _ _ _ _
  refine .bind (.during (.exchange _) _) ?_
  intro _ description _ _
  refine .bind (.ofExcept (fun e => ⟨e, rfl⟩) _) ?_
  intro _ policy _ _
  refine .bind (.during (.exchange _) _) ?_
  intro _ answer _ _
  exact .pure _ _

theorem FailsWith.negotiate (p : Partners σ η) (c : Configuration) (recipient : Option String) :
    FailsWith OfConnector (Command.negotiate p c recipient) := by
  refine .bind (.negotiateOffer p c _) ?_
  intro _ outcome _ _
  exact .sayAll _ _

end Command

end Negotiation

/-! ## Every machine -/

/-- Against any machine that answers, under either policy, and from any state of it.  Of a plan that
was built, the errors of the steps and of the result are all about answers.  Of an offer, the
handles are all there as soon as its creates are done, and so when the run is complete.  The
negotiation fails with errors of the connector only, and never because handles are missing. -/
theorem failures_ofAnswer {σ η : Type} (c : Client σ) (policy : FailurePolicy) (s : σ) :
    (∀ plan : Plan, plan.Built →
      (∀ o ∈ (plan.run c policy s).1.outcomes, ∀ e, o.status = .failed e → e.OfAnswer) ∧
      ∀ e, (plan.run c policy s).1.result = .error e → e.OfAnswer) ∧
    (∀ number t now plan slots, Plan.offer number t now = .ok (plan, slots) →
      ((∀ pair ∈ plan.steps.zip (plan.run c policy s).1.outcomes,
        pair.1.writes.isSome = true → pair.2.isDone = true) →
          (slots.resolve (plan.run c policy s).1).isSome = true) ∧
      ((plan.run c policy s).1.isComplete = true →
        (slots.resolve (plan.run c policy s).1).isSome = true)) ∧
    (∀ (engine : Engine η) (now : Time.Instant) (config : Configuration)
      (recipient : Option String) (d : Desk σ η) (e : CommandError),
      (Command.negotiate ⟨c, engine, now⟩ config recipient d).1 = .error e →
        ∃ error, e.fault = .connector error) := by
  refine ⟨?_, ?_, ?_⟩
  · intro plan hb
    obtain ⟨visits, q, t, hsteps, hturns, hrun, -⟩ := hb.run_turns c policy s
    rw [hrun]
    constructor
    · intro o ho e he
      obtain ⟨v, hv, rfl⟩ := List.mem_map.mp ho
      exact hturns.ofAnswer hv he
    · intro e he
      have hcases := hb.result_cases (r := ⟨plan.id, q.handles, _⟩) hsteps hturns rfl
      rcases hcases with hok | ⟨e', hfirst, v, hv, hfailed⟩
      · cases hok.symm.trans he
      · cases hfirst.symm.trans he
        exact hturns.ofAnswer hv hfailed
  · intro number t now plan slots hoffer
    have hb := Plan.built_of_offer hoffer
    obtain ⟨visits, q, t, hsteps, hturns, hrun, -⟩ := hb.run_turns c policy s
    rw [hrun]
    constructor
    · intro hdone
      exact Plan.isSome_resolve hoffer hsteps hturns (done_of_zip hsteps hdone)
    · intro hcomplete
      have hdone := (Report.isComplete_iff rfl).mp hcomplete
      exact Plan.isSome_resolve hoffer hsteps hturns fun v hv _ => hdone v hv
  · intro engine now config recipient d e h
    rcases hrun : Command.negotiate ⟨c, engine, now⟩ config recipient d with ⟨result, d'⟩
    rw [hrun] at h
    cases h
    exact Command.FailsWith.negotiate _ config recipient d e d' hrun

/-- A machine that answers with a contract whatever entity is asked for, and one that answers every
request of an offer as it was meant. -/
theorem failures_ofAnswer_other_kind :
    let c : Client _ := ⟨"https://c", .scripted⟩
    let plan := (Plan.new 0).create "r" .resource .null
    let other := [.ok ⟨201, some "https://c/api/contracts/1", []⟩]
    let t := { OfferTemplate.negotiation with contract := some ⟨"a", "b"⟩, endpoints := [] }
    let created := [.catalog, .resource, .representation, .app, .artifact, .contract, .rule].map
      fun kind : EntityKind => .ok ⟨201, some ("https://c/api/" ++ kind.collection ++ "/1"), []⟩
    let fit := created ++ List.replicate 6 (.ok ⟨200, none, []⟩)
    let engine : Engine Unit := ⟨fun _ _ _ => pure (), fun _ => pure (), fun _ _ => pure (),
      fun _ => pure none, pure []⟩
    let config : Configuration := ⟨⟨"https://c", "u", "p", false, 5, none⟩, .remote, .empty,
      ⟨none, none⟩, some t, .empty⟩
    plan.Built ∧
      (∃ e, (plan.run c .failFast other).1.outcomes = [⟨"create r", .failed e⟩] ∧ e.OfAnswer) ∧
      (∃ offer slots, Plan.offer 1 t ⟨0, 0⟩ = .ok (offer, slots) ∧
        (offer.run c .failFast fit).1.isComplete = true ∧
        (slots.resolve (offer.run c .failFast fit).1).isSome = true) ∧
      ∃ e, (Command.negotiate ⟨c, engine, ⟨0, 0⟩⟩ config none (.start other () ⟨"/", [], []⟩)).1
        = .error e ∧ ∃ error, e.fault = .connector error := by
  intro c plan other t created fit engine config
  have hb : plan.Built := .create "r" .resource .null (.new 0)
  have hother := failures_ofAnswer (η := Unit) c .failFast other
  have hfit := failures_ofAnswer (η := Unit) c .failFast fit
  refine ⟨hb, ?_, ?_, ?_⟩
  · have houtcomes : (plan.run c .failFast other).1.outcomes = [⟨"create r", .failed
        (.responseFormat "https://c/api/resources"
          (.wrongLocation .resource "https://c/api/contracts/1"))⟩] := by
      decide +kernel
    exact ⟨_, houtcomes, (hother.1 plan hb).1 _ (houtcomes ▸ List.mem_singleton_self _) _ rfl⟩
  · have hcomplete : (match Plan.offer 1 t ⟨0, 0⟩ with
        | .ok (offer, _) => (offer.run c .failFast fit).1.isComplete
        | .error _ => false) = true := by
      decide +kernel
    cases hoffer : Plan.offer 1 t ⟨0, 0⟩ with
    | error e => simp [hoffer] at hcomplete
    | ok pair =>
        obtain ⟨offer, slots⟩ := pair
        simp only [hoffer] at hcomplete
        exact ⟨offer, slots, rfl, hcomplete, (hfit.2.1 1 t ⟨0, 0⟩ offer slots hoffer).2 hcomplete⟩
  · have hfails : (Command.negotiate ⟨c, engine, ⟨0, 0⟩⟩ config none
        (.start other () ⟨"/", [], []⟩)).1.isOk = false := by
      decide +kernel
    cases hnegotiate : (Command.negotiate ⟨c, engine, ⟨0, 0⟩⟩ config none
        (.start other () ⟨"/", [], []⟩)).1 with
    | ok _ =>
        rw [hnegotiate] at hfails
        cases hfails
    | error e =>
        exact ⟨e, rfl, hother.2.2 engine ⟨0, 0⟩ config none _ e hnegotiate⟩

end Dataspace
