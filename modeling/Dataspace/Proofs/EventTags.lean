/-
The version of a pushed image and the tag in the event of its push.

Both come from one setting and are read on two paths.  The reference leaves out the
blanks around the version, and the version altogether if nothing is left of it; the
event repeats the setting as it is, or says `latest` if there is none.  So the two
agree if and only if the configured version is not empty and has no blanks around it.
-/
import Dataspace.Proofs.Provisioning

namespace Dataspace

open Text

/-! ## One setting read twice -/

/-- The tag that a version stands for, with blanks or without. -/
theorem getD_eq_getD_bind_filled?_iff (version : Option String) :
    version.getD "latest" = (version.bind filled?).getD "latest" ↔
      ∀ v, version = some v → trim v = v ∧ v ≠ "" := by
  cases version with
  | none => exact iff_of_true rfl nofun
  | some v =>
      have hlatest : trim "latest" ≠ "" := by decide +kernel
      rw [bind_filled?_eq, show trimmed (some v) = trim v from rfl]
      by_cases hblank : trim v = ""
      · rw [if_pos hblank]
        refine iff_of_false ?_ fun h => ?_
        · rintro rfl
          exact hlatest hblank
        · obtain ⟨htrim, hne⟩ := h v rfl
          exact hne (htrim.symm.trans hblank)
      · rw [if_neg hblank]
        constructor
        · intro hsame w hw
          cases hw
          have htrim : trim v = v := hsame.symm
          exact ⟨htrim, htrim ▸ hblank⟩
        · intro h
          exact (h v rfl).1.symm

/-! ## What the follow-ups asked for -/

section Serves

variable {σ η : Type} {p : Partners σ η} {c : Configuration} {o : ProvisionOptions} {g : OfferGraph}
  {before : List FollowUpVisit} {v : FollowUpVisit}

/-- Nothing is pushed but the image of the resource. -/
theorem FollowUpVisit.Serves.pushed (h : v.Serves p c g before) {text : String}
    {answer : EngineAnswer} (hmem : Contact.engine (.push text, answer) ∈ v.contacts) :
    text = PublishSettings.target ⟨c.registry, c.image, g.resource.id⟩ := by
  cases h with
  | @published made result houtcome =>
      obtain ⟨push, hmade, heq⟩ := List.mem_map.mp hmem
      cases heq
      have hcall : EngineCall.push text ∈
          PublishSettings.script ⟨c.registry, c.image, g.resource.id⟩ :=
        houtcome.calls.subset (List.mem_map_of_mem (f := Prod.fst) hmade)
      simpa [PublishSettings.script, PublishSettings.login] using hcall
  | unnamed _ | unfit _ _ | posted _ _ _ _ _ | unfetched | fetched _ _ _ _ _ => simp at hmem

/-- Nothing is posted but the event of the push. -/
theorem FollowUpVisit.Serves.posts (h : v.Serves p c g before) {call : Call}
    (hmem : Contact.request call ∈ v.contacts) (hpost : call.1.method = .post) :
    ∃ reference,
      ImageReference.ofResource c.registry g.resource.id c.image.version = .ok reference ∧
      call.1 = eventRequest p (pushEvent p c reference (pushedDigest? before)) := by
  cases h with
  | published _ => simp at hmem
  | unnamed _ | unfit _ _ => simp at hmem
  | posted answer hreference hevent _ _ =>
      obtain rfl : call = _ := by simpa using hmem
      exact ⟨_, hreference, by rw [← hevent]⟩
  | unfetched =>
      obtain rfl : call = _ := by simpa using hmem
      cases hpost
  | fetched _ _ _ _ _ =>
      simp only [List.mem_cons, Contact.request.injEq, List.not_mem_nil, or_false] at hmem
      rcases hmem with rfl | rfl
      · cases hpost
      · cases hpost

/-- All follow-ups that were visited serve one offer. -/
theorem Provisioning.exists_serves {plan : Plan} {slots : OfferSlots} {report : Report}
    {calls : List Call} {visits : List FollowUpVisit}
    {result : Except CommandError ProvisionSummary}
    (h : Provisioning p c o plan slots report calls visits result) (hne : visits ≠ []) :
    ∃ g, ∀ v ∈ visits, ∃ before, v.Serves p c g before := by
  obtain ⟨g, -, -, -, hattended⟩ := h.attended (h.happen_iff.mp hne).2
  refine ⟨g, fun v hv => ?_⟩
  obtain ⟨before, after, hvisits⟩ := List.append_of_mem hv
  exact ⟨[] ++ before, hattended.serves before v after hvisits⟩

end Serves

/-! ## The contacts of a command -/

section Contacts

variable {σ η : Type} {calls : List Call} {contacts : List Contact}

theorem Desk.mem_engine_keeping {d : Desk σ η} {made : MadeCall}
    (h : made ∈ (d.keeping (calls.map .request ++ contacts)).engine.2) :
    .engine made ∈ contacts := by
  obtain ⟨contact, hmem, hcontact⟩ := List.mem_filterMap.mp h
  cases contact with
  | request call => cases hcontact
  | engine other =>
      cases hcontact
      rcases List.mem_append.mp hmem with hcall | hmem
      · simp at hcall
      · exact hmem

theorem Desk.mem_link_keeping {d : Desk σ η} {call : Call}
    (h : call ∈ (d.keeping (calls.map .request ++ contacts)).link.2) :
    call ∈ calls ∨ .request call ∈ contacts := by
  obtain ⟨contact, hmem, hcontact⟩ := List.mem_filterMap.mp h
  cases contact with
  | engine made => cases hcontact
  | request other =>
      cases hcontact
      rcases List.mem_append.mp hmem with hcall | hmem
      · exact Or.inl (by simpa using hcall)
      · exact Or.inr hmem

end Contacts

/-- Without a plan of the offer nobody is asked for anything. -/
theorem Command.provision_without_contract {σ η : Type} (p : Partners σ η) {c : Configuration}
    (h : c.offerTemplate.contractOrNow? p.now = none) (o : ProvisionOptions) (d : Desk σ η) :
    ∃ e, Command.provision p c o d = (.error e, d) := by
  have hoffer : Plan.offer 0 c.offerTemplate p.now
      = .error (.contractWindow defaultContractDays) := by
    simp only [Plan.offer, h]
  have hplan : provisionOffer p c o d
      = (.error ⟨[], .connector (.contractWindow defaultContractDays)⟩, d) := by
    rw [provisionOffer_eq]
    refine bind_error ?_
    rw [hoffer]
    rfl
  exact ⟨_, bind_error hplan⟩

/-- Provisioning for any configuration and options, with partners that answer in any way: whatever
was pushed and whatever was posted to the webhook.  What was pushed is a reference that ends in the
configured version without the blanks around it, if anything is left of it.  What was posted is an
event about that reference, and its tag is the configured version as it stands, or `latest`.  So the
tag is the version that was pushed, or `latest` where none was, if and only if the configured
version, should there be one, is not empty and has no blanks around it. -/
theorem provision_event_tag {σ η : Type} (p : Partners σ η) (c : Configuration)
    (o : ProvisionOptions) (d : Desk σ η) {text : String} {answer : EngineAnswer} {call : Call}
    (hpush : (.push text, answer) ∈
      (Command.provision p.logging c o (d.keeping [])).2.engine.2)
    (hcall : call ∈ (Command.provision p.logging c o (d.keeping [])).2.link.2)
    (hpost : call.1.method = .post) (hurl : call.1.url = p.client.url webhookPath) :
    ∃ (reference : ImageReference) (event : RegistryEvent), text = reference.text ∧
      reference.version = c.image.version.bind filled? ∧
      call.1 = eventRequest p event ∧
      event.resources.map EventResource.resourceUrl = [reference.path] ∧
      event.resources.map EventResource.tag = [c.image.version.getD "latest"] ∧
      (event.resources.map EventResource.tag = [reference.version.getD "latest"] ↔
        ∀ v, c.image.version = some v → trim v = v ∧ v ≠ "") := by
  -- something was pushed, so there was a plan
  have hnow : c.offerTemplate.contract = none →
      (ContractPayload.fromNow? p.now).isSome = true := by
    intro hnone
    refine Decidable.byContradiction fun hnot => ?_
    have hcontract : c.offerTemplate.contractOrNow? p.logging.now = none := by
      rw [OfferTemplate.contractOrNow?, hnone]
      exact Option.not_isSome_iff_eq_none.mp hnot
    obtain ⟨e, hrun⟩ := Command.provision_without_contract p.logging hcontract o (d.keeping [])
    rw [hrun] at hpush
    cases hpush
  obtain ⟨plan, slots, visits, q, t, followUps, result, outcome, d', -, -, hturns, -, hprovisioning,
    hnoted, -⟩ := Command.noted_provisioning p c o d hnow
  rw [hnoted.noted []] at hpush hcall
  have hpushed := Desk.mem_engine_keeping hpush
  -- the plan posts to collections only, so the event is a follow-up's
  have hposted : .request call ∈ followUps.flatMap FollowUpVisit.contacts := by
    refine (Desk.mem_link_keeping hcall).resolve_left fun hmade => ?_
    obtain ⟨front, kind, body, hrequest⟩ := hturns.request_post call hmade
    have hne : front ++ kind.collection ≠ p.client.baseUrl ++ webhookPath :=
      append_collection_ne (c := 'y') (by decide +kernel) (by decide) _ _ _
    rw [hrequest] at hurl
    exact hne hurl
  obtain ⟨v, hv, hpushed⟩ := List.mem_flatMap.mp hpushed
  obtain ⟨w, hw, hposted⟩ := List.mem_flatMap.mp hposted
  obtain ⟨g, hserves⟩ := hprovisioning.exists_serves (List.ne_nil_of_mem hv)
  obtain ⟨_, hserved⟩ := hserves v hv
  obtain ⟨before, hserved'⟩ := hserves w hw
  obtain ⟨reference, hreference, hrequest⟩ := hserved'.posts hposted hpost
  have heq := PublishSettings.eq_of_unlessBlank
    ((PublishSettings.ofResource_eq ⟨c.registry, c.image, g.resource.id⟩).symm.trans hreference)
  have hversion : reference.version = c.image.version.bind filled? := by
    rw [heq, bind_filled?_eq]
    rfl
  refine ⟨reference, _, ?_, hversion, hrequest, rfl, rfl, ?_⟩
  · rw [hserved.pushed hpushed, heq, PublishSettings.reference_text]
  · rw [hversion, ← getD_eq_getD_bind_filled?_iff]
    exact List.singleton_inj

/-! ## Two versions -/

/-- A small offer, and an image of this version. -/
def Configuration.ofVersion (version : Option String) : Configuration :=
  ⟨⟨"https://c", "u", "p", false, 5, none⟩, .remote,
    ⟨some "registry", some "apps", some "u", some "p"⟩, ⟨some "image", version⟩,
    some { OfferTemplate.negotiation with contract := some ⟨"a", "b"⟩, endpoints := [] }, .empty⟩

/-- Answers that create and link everything, and take the event; the resource is a UUID's. -/
def wholeOfferAnswers : List (Except Outage Response) :=
  ["catalogs/1", "resources/97fa143cb19e4b959ae99ec68ea880ad", "representations/1", "apps/1",
    "artifacts/1", "contracts/1", "rules/1"].map
      (fun path => .ok ⟨201, some ("https://c/api/" ++ path), []⟩)
  ++ List.replicate 7 (.ok ⟨200, none, []⟩)

/-- A connector that gives fixed answers, and an engine that does nothing. -/
def scriptedPartners : Partners (List (Except Outage Response)) Unit :=
  ⟨⟨"https://c", .scripted⟩, .idle, ⟨0, 0⟩⟩

/-- The desk after an image of this version was published and its event sent, with all contacts. -/
def afterPush (version : Option String) :
    Desk (List (Except Outage Response) × List Call) (Unit × List MadeCall) :=
  (Command.provision scriptedPartners.logging (.ofVersion version) ⟨false, true, true, false, "/"⟩
    (Desk.keeping (.start wholeOfferAnswers () ⟨"/", [], []⟩) [])).2

/-- The tag in a request that posts an event. -/
def Request.tag? (r : Request) : Option String := do
  let data ← (← r.body).get? "event_data"
  let resource ← (← data.get? "resources").first?
  (← resource.get? "tag").asString?

/-- A version without blanks around it is the tag. -/
theorem provision_event_tag_clean :
    ∃ made ∈ (afterPush (some "1.0")).engine.2, ∃ call ∈ (afterPush (some "1.0")).link.2,
      made.1 = .push "registry/apps/97fa143cb19e4b959ae99ec68ea880ad:1.0" ∧
      ∃ event : RegistryEvent, call.1.body.map Json.compact = some event.toJson.compact ∧
        event.resources.map EventResource.tag = ["1.0"] := by
  have hfacts : ((afterPush (some "1.0")).engine.2.any (fun made =>
        made.1 == .push "registry/apps/97fa143cb19e4b959ae99ec68ea880ad:1.0") &&
      (afterPush (some "1.0")).link.2.any (fun call =>
        call.1.method == .post && call.1.url == "https://c" ++ webhookPath)) = true := by
    decide +kernel
  obtain ⟨hpushed, hposted⟩ := Bool.and_eq_true_iff.mp hfacts
  obtain ⟨⟨made, answer⟩, hmade, hpush⟩ := List.any_eq_true.mp hpushed
  obtain ⟨call, hcall, hrequest⟩ := List.any_eq_true.mp hposted
  obtain ⟨hpost, hurl⟩ := Bool.and_eq_true_iff.mp hrequest
  obtain rfl : made = _ := beq_iff_eq.mp hpush
  refine ⟨_, hmade, call, hcall, rfl, ?_⟩
  rw [afterPush] at hmade hcall
  obtain ⟨reference, event, -, -, hevent, -, htag, -⟩ :=
    provision_event_tag scriptedPartners (.ofVersion (some "1.0")) ⟨false, true, true, false, "/"⟩
      (.start wholeOfferAnswers () ⟨"/", [], []⟩) hmade hcall (beq_iff_eq.mp hpost)
      (beq_iff_eq.mp hurl)
  refine ⟨event, ?_, htag⟩
  rw [hevent]
  rfl

/-- With blanks around it the version is pushed without them and told of with them. -/
theorem provision_event_tag_padded :
    (∃ made ∈ (afterPush (some " 1.0 ")).engine.2,
      made.1 = .push "registry/apps/97fa143cb19e4b959ae99ec68ea880ad:1.0") ∧
    ∃ call ∈ (afterPush (some " 1.0 ")).link.2, call.1.tag? = some " 1.0 " := by
  have hfacts : ((afterPush (some " 1.0 ")).engine.2.any (fun made =>
        made.1 == .push "registry/apps/97fa143cb19e4b959ae99ec68ea880ad:1.0") &&
      (afterPush (some " 1.0 ")).link.2.any (fun call => call.1.tag? == some " 1.0 ")) = true := by
    decide +kernel
  obtain ⟨hpushed, hposted⟩ := Bool.and_eq_true_iff.mp hfacts
  obtain ⟨made, hmade, hpush⟩ := List.any_eq_true.mp hpushed
  obtain ⟨call, hcall, htag⟩ := List.any_eq_true.mp hposted
  exact ⟨⟨made, hmade, beq_iff_eq.mp hpush⟩, call, hcall, beq_iff_eq.mp htag⟩

end Dataspace
