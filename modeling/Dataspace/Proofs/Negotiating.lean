/-
Negotiations with a new connector.

The offer is provisioned whole, the description of its resource is requested, the
policy is taken from it, and a contract is requested for that policy.  Everything but
the policy is known beforehand, so the policy alone decides how far this comes: a text
that is no JSON object, or is one that is nested too deep to be described, ends it
before the contract is requested.
-/
import Dataspace.Command.Program
import Dataspace.Proofs.Asking
import Dataspace.Proofs.Commands
import Dataspace.Proofs.FailFast
import Dataspace.Proofs.Provisioned

namespace Dataspace

open Text

/-! ## A new connector -/

section Whole

theorem keyed_map_some (uris : List String) (es : List Entity) :
    keyed (uris.map some) es = uris.zip es := by
  rw [keyed, List.zip_map_left, List.filterMap_map]
  exact List.filterMap_some

theorem paired_map_some (o : Offered String) : paired (o.map some).links = o.links := by
  rw [paired, Offered.links_map, List.filterMap_map]
  exact List.filterMap_some

/-- Links that are added change nothing but the links. -/
theorem Store.exists_addPairs_eq (pairs : List (String × String)) (s : Store) :
    ∃ links, s.addPairs pairs = { s with links := links } := by
  induction pairs generalizing s with
  | nil => exact ⟨s.links, rfl⟩
  | cons l rest ih =>
      obtain ⟨links, hlinks⟩ := ih (s.addLink l.1 l.2)
      refine ⟨links, hlinks.trans ?_⟩
      unfold addLink
      split
      · rfl
      · rfl

end Whole

section New

variable {site : Site} {t : OfferTemplate} {contract : ContractPayload}

/-- Entities that were all placed in a new connector, with the links between them, are the whole
offer. -/
theorem Placed.stored_offer {handles : List (Option Handle)} {v : Store} {g : OfferGraph}
    (h : Placed site .empty (t.entities contract).all handles v)
    (hg : held handles t.endpoints.length = g.handles.map some) :
    g.Stored t contract (v.addPairs (paired (heldUris handles t.endpoints.length).links)) := by
  have huris : heldUris handles t.endpoints.length = (g.handles.map Handle.uri).map some := by
    rw [heldUris, hg]
    simp [Offered.map]
  have hnone : v.links = [] := by rw [h.rest]; rfl
  have hkeyed := h.entities
  have hfresh := h.fresh_uris
  rw [← all_heldUris h.length_handles, huris, Offered.all_map (o := g.handles.map Handle.uri),
    keyed_map_some] at hkeyed
  rw [huris, Offered.all_map (o := g.handles.map Handle.uri), List.filterMap_map] at hfresh
  have hlinks := h.nodup_links (Store.sound_empty site)
  rw [Store.addPairs_eq (hnone ▸ hlinks), huris, paired_map_some]
  exact {
    endpoints := by
      have hlength := congrArg (fun o => o.endpoints.length) hg
      have hall : g.handles.endpoints.length = t.endpoints.length := by
        simpa [held, Offered.map, Offered.places] using hlength.symm
      exact hall
    distinct := by
      simpa [Store.empty] using hfresh
    entities := by
      simpa [Store.empty] using hkeyed
    links := by
      show v.links ++ _ = _
      rw [hnone]
      rfl }

/-- The handle of a stored entity is made of its kind and a UUID that was taken. -/
theorem Site.Stored.exists_uuid {s : Store} {h : Handle} (hs : s.Sound site)
    (hstored : site.Stored s h) :
    ∃ n, h = .ofEntity site.baseUrl h.kind (site.uuids n).text := by
  obtain ⟨id, -, hform⟩ := hstored.form
  obtain ⟨e, he, hkind⟩ := Store.entity?_of_kindOf? hstored.kindOf
  obtain ⟨n, -, haddress⟩ := hs.addressed _ (Store.mem_of_entity? he)
  have huri : h.uri = Route.entityUri site.baseUrl h.kind.collection id := congrArg Handle.uri hform
  obtain ⟨-, hid⟩ := Route.entityUri_injective (huri.symm.trans haddress)
  exact ⟨n, hid ▸ hform⟩

/-- What a plan of an offer leaves in a new connector, under either policy: the whole offer and
nothing else. -/
theorem Site.offer_new (hbase : startsBlank site.baseUrl = false)
    (hu : site.Unrepeated (7 + t.endpoints.length)) {now : Time.Instant}
    (hcontract : t.contractOrNow? now = some contract) (policy : FailurePolicy) (id : Nat) :
    ∃ plan slots report next g n, Plan.offer id t now = .ok (plan, slots) ∧
      plan.run site.client policy .empty = (report, next) ∧ report.isComplete = true ∧
      slots.resolve report = some g ∧ g.Stored t contract next ∧
      g.resource = .ofEntity site.baseUrl .resource (site.uuids n).text ∧
      next.agreements = [] ∧ next.events = [] := by
  obtain ⟨plan, handles, v, outcomes, hoffer, hplaced, hrun, hdone⟩ :=
    Site.run_offer hbase (Store.sound_empty site) ((Nat.zero_add _).symm ▸ hu) hcontract id
  have hlength := hplaced.length_handles
  have hall : ∀ x ∈ handles, x.isSome = true :=
    hplaced.isSome_iff.mpr fun _ _ => List.not_mem_nil
  obtain ⟨w, hw⟩ := Offered.exists_of_isSome
    (o := held handles t.endpoints.length) ((all_held hlength).symm ▸ hall)
  have hcomplete : Report.isComplete ⟨id, handles, outcomes⟩ = true :=
    (all_done_iff hlength hdone).mpr hall
  have hpolicy : plan.run site.client policy .empty = (⟨id, handles, outcomes⟩,
      v.addPairs (paired (heldUris handles t.endpoints.length).links)) := by
    cases policy with
    | failFast => exact Plan.run_failFast_of_complete hrun hcomplete
    | keepGoing => exact hrun
  -- the resource is the second entity
  obtain ⟨hresource, hkind⟩ := hplaced.stored_at (i := 1) rfl (congrArg Offered.resource hw)
  obtain ⟨n, hn⟩ := hresource.exists_uuid hplaced.sound
  rw [hkind] at hn
  obtain ⟨links, hlinks⟩ :=
    v.exists_addPairs_eq (paired (heldUris handles t.endpoints.length).links)
  refine ⟨plan, _, _, _, ⟨w.catalog, w.resource, w.representation, w.app, w.endpoints, w.artifact,
    w.contract, w.rule⟩, n, hoffer, hpolicy, hcomplete, hplaced.resolve_eq_some_iff.mpr hw,
    hplaced.stored_offer hw, hn, ?_, ?_⟩
  · rw [hlinks, hplaced.rest]
    rfl
  · rw [hlinks, hplaced.rest]
    rfl

/-- A plan of an offer leaves in a new connector the whole offer and nothing else. -/
theorem Site.provision_new (hbase : startsBlank site.baseUrl = false)
    (hu : site.Unrepeated (7 + t.endpoints.length)) {now : Time.Instant}
    (hcontract : t.contractOrNow? now = some contract) (id : Nat) :
    ∃ plan slots report next g, Plan.offer id t now = .ok (plan, slots) ∧
      plan.run site.client .failFast .empty = (report, next) ∧ report.isComplete = true ∧
      slots.resolve report = some g ∧ g.Stored t contract next ∧ next.agreements = [] := by
  obtain ⟨plan, slots, report, next, g, -, hoffer, hrun, hcomplete, hg, hstored, -, hagreements,
    -⟩ := Site.offer_new hbase hu hcontract .failFast id
  exact ⟨plan, slots, report, next, g, hoffer, hrun, hcomplete, hg, hstored, hagreements⟩

end New

/-! ## The requests of a run -/

section Requests

variable {base : String} {policy : FailurePolicy} {p q : Progress} {visits : List Visit}

/-- A run of a plan never requests a contract. -/
theorem Turns.url_ne_contract (h : Turns base policy p visits q) (front : String) :
    ∀ call ∈ visits.filterMap Visit.call, call.1.url ≠ front ++ contractPath := by
  intro call hcall
  obtain ⟨other, kind, body, hrequest⟩ := h.request_post call hcall
  rw [hrequest]
  exact append_collection_ne (c := 't') (by decide +kernel) (by decide) other front kind

/-- With its calls kept a run is the same, and none of them requests a contract. -/
theorem Plan.Built.run_logging {σ : Type} {plan : Plan} (hb : plan.Built) {c : Client σ}
    {s t : σ} {report : Report} (h : plan.run c policy s = (report, t)) :
    ∃ calls, plan.run c.logging policy (s, []) = (report, t, calls) ∧
      ∀ front, ∀ call ∈ calls, call.1.url ≠ front ++ contractPath := by
  obtain ⟨visits, q, u, -, hturns, hrun, hlogged⟩ := hb.run_turns c policy s
  rw [h] at hrun
  cases hrun
  exact ⟨_, hlogged, hturns.url_ne_contract⟩

end Requests

/-! ## The command -/

/-- The desk after a provisioned offer was told of. -/
def Desk.told {σ η : Type} (d : Desk σ η) (g : OfferGraph) : Desk σ η :=
  { d with printed := d.printed ++
      [s!"Resource: {g.resource.uri}", s!"Artifact: {g.artifact.uri}"] }

namespace Command

variable {σ η : Type} {p : Partners σ η} {c : Configuration} {recipient : String}
  {d : Desk σ η} {g : OfferGraph} {t u : σ}

theorem provisionNegotiated_eq {plan : Plan} {slots : OfferSlots} {report : Report}
    (hoffer : Plan.offer 0 c.negotiatedTemplate p.now = .ok (plan, slots))
    (hrun : plan.run p.client .failFast d.link = (report, t)) (hcomplete : report.isComplete = true)
    (hg : slots.resolve report = some g) :
    provisionNegotiated p c d = (.ok g, { d with link := t }) := by
  have hplan : (ofExcept .connector (Plan.offer 0 c.negotiatedTemplate p.now) :
      Command σ η (Plan × OfferSlots)) d = (.ok (plan, slots), d) := by
    rw [hoffer]
    rfl
  have hobserved : (observing (plan.run p.client .failFast) : Command σ η Report) d
      = (.ok report, { d with link := t }) := by
    simp only [observing, hrun]
  have hresult : during .provisioningOffer (ofExcept .connector report.result)
      { d with link := t } = (.ok report, { d with link := t }) := by
    refine during_of_ok ?_ _
    rw [Report.result, if_pos hcomplete]
    rfl
  refine (bind_ok hplan).trans ((bind_ok hobserved).trans ((bind_ok hresult).trans ?_))
  simp only [hg]
  rfl

section Outcomes

variable {m : Desk σ η} {description policy : Json} {e : ConnectorError}

theorem negotiateOffer_undescribed (hoffer : provisionNegotiated p c d = (.ok g, m))
    (hdescribe : p.client.describe (some recipient) (some g.resource.uri) m.link = (.error e, t)) :
    negotiateOffer p c recipient d
      = (.error ⟨[.requestingDescription g.resource.uri], .connector e⟩,
          { m.told g with link := t }) := by
  refine (bind_ok hoffer).trans ((bind_ok (a := ()) rfl).trans (bind_error ?_))
  exact during_of_error (exchange_of_error (d := m.told g) hdescribe) _

theorem negotiateOffer_without_policy (hoffer : provisionNegotiated p c d = (.ok g, m))
    (hdescribe : p.client.describe (some recipient) (some g.resource.uri) m.link
      = (.ok description, t))
    (hpolicy : extractPolicy description g.artifact = .error e) :
    negotiateOffer p c recipient d = (.error ⟨[], .connector e⟩,
      { m.told g with link := t }) := by
  refine (bind_ok hoffer).trans ((bind_ok (a := ()) rfl).trans ((bind_ok
    (during_of_ok (exchange_of_ok (d := m.told g) hdescribe) _)).trans (bind_error ?_)))
  rw [hpolicy]
  rfl

theorem negotiateOffer_agreed {answer : ContractAnswer}
    (hoffer : provisionNegotiated p c d = (.ok g, m))
    (hdescribe : p.client.describe (some recipient) (some g.resource.uri) m.link
      = (.ok description, t))
    (hpolicy : extractPolicy description g.artifact = .ok policy)
    (hnegotiate : p.client.negotiate (some recipient) g.resource g.artifact c.negotiation.download
      policy t = (.ok answer, u)) :
    negotiateOffer p c recipient d = (.ok ⟨g, policy, answer⟩,
      { m.told g with link := u }) := by
  have htaken : (ofExcept .connector (extractPolicy description g.artifact) : Command σ η Json)
      { m.told g with link := t }
        = (.ok policy, { m.told g with link := t }) := by
    rw [hpolicy]
    rfl
  refine (bind_ok hoffer).trans ((bind_ok (a := ()) rfl).trans ((bind_ok
    (during_of_ok (exchange_of_ok (d := m.told g) hdescribe) _)).trans ((bind_ok htaken).trans
    ((bind_ok (during_of_ok (exchange_of_ok (d := { m.told g with link := t }) hnegotiate)
    _)).trans ?_))))
  rfl

end Outcomes

end Command

/-! ## What a negotiation comes to -/

/-- What a negotiation for an offer comes to, with the store that it leaves and the calls that were
made.  The offer is there in any case.  The negotiation succeeds if and only if the text of the
rule's policy is that of an object that is not nested too deep to be described.  Then its policy is
that object, bound to the artifact, and there is one agreement, on that policy.  Otherwise the error
is that a response is not as expected; no contract was requested, and there is no agreement. -/
structure Negotiated (t : OfferTemplate) (contract : ContractPayload) (base : String)
    (g : OfferGraph) (result : Except CommandError NegotiationOutcome) (next : Store)
    (calls : List Call) : Prop where
  stored : g.Stored t contract next
  succeeds : result.isOk = true ↔
    ∃ v, Json.parse? t.rule.value = some v ∧ v.isObject = true ∧ v.depth ≤ 123
  agreed : ∀ outcome, result = .ok outcome → outcome.graph = g ∧
    (∃ v, Json.parse? t.rule.value = some v ∧
      v.set? "ids:target" (.str g.artifact.uri) = some outcome.policy ∧
      ∀ key, outcome.policy.get? key
        = if key = "ids:target" then some (.str g.artifact.uri) else v.get? key) ∧
    ∃ agreement, next.agreements = [agreement] ∧
      agreement.get? "ids:permission" = some (.arr [outcome.policy])
  refused : ∀ error, result = .error error →
    (∃ url fault, error.fault = .connector (.responseFormat url fault)) ∧
    next.agreements = [] ∧ ∀ call ∈ calls, call.1.url ≠ base ++ contractPath

namespace Negotiated

variable {t : OfferTemplate} {contract : ContractPayload} {base : String} {g : OfferGraph}
  {next : Store} {calls : List Call}

/-- A negotiation that ends before the contract is requested. -/
theorem of_refused {during : List Activity} {url : String} {fault : FormatFault}
    (hstored : g.Stored t contract next) (hagreements : next.agreements = [])
    (hcalls : ∀ call ∈ calls, call.1.url ≠ base ++ contractPath)
    (hpolicy : ¬ (t.rule.policy.isObject = true ∧ t.rule.policy.depth ≤ 123)) :
    Negotiated t contract base g (.error ⟨during, .connector (.responseFormat url fault)⟩) next
      calls where
  stored := hstored
  succeeds := by
    rw [← t.rule.isObject_policy_iff]
    exact iff_of_false (fun h => nomatch h) hpolicy
  agreed := fun _ h => nomatch h
  refused := by
    intro error h
    cases h
    exact ⟨⟨url, fault, rfl⟩, hagreements, hcalls⟩

/-- A negotiation whose policy was agreed on. -/
theorem of_agreed {policy agreement : Json} {answer : ContractAnswer}
    (hstored : g.Stored t contract next) (hagreements : next.agreements = [agreement])
    (hagreement : agreement.get? "ids:permission" = some (.arr [policy]))
    (hbound : t.rule.policy.set? "ids:target" (.str g.artifact.uri) = some policy)
    (hdepth : t.rule.policy.depth ≤ 123) :
    Negotiated t contract base g (.ok ⟨g, policy, answer⟩) next calls where
  stored := hstored
  succeeds := by
    rw [← t.rule.isObject_policy_iff]
    exact iff_of_true rfl ⟨Json.isObject_of_set? hbound, hdepth⟩
  agreed := by
    intro outcome h
    cases h
    obtain ⟨v, hparse, -⟩ :=
      (t.rule.isObject_policy_iff 123).mp ⟨Json.isObject_of_set? hbound, hdepth⟩
    rw [RulePayload.policy_of_parse? hparse] at hbound
    exact ⟨rfl, ⟨v, hparse, hbound, Json.get?_of_set? hbound⟩, agreement, hagreements, hagreement⟩
  refused := fun _ h => nomatch h

end Negotiated

/-- The call by which an offered resource is described. -/
def OfferGraph.descriptionCall (g : OfferGraph) (base recipient : String) (policy : Json) : Call :=
  (Client.describeRequest base (some recipient) (some g.resource.uri),
    .ok (.ofJson 200 (g.description policy)))

/-- The rest of a negotiation, once the offer is there: both as it is run and with the calls
kept. -/
theorem OfferGraph.Stored.negotiates {η : Type} {site : Site} {engine : Engine η}
    {now : Time.Instant} {c : Configuration} {contract : ContractPayload}
    {g : OfferGraph} {s : Store} {calls : List Call} {d : Desk Store η}
    {k : Desk (Store × List Call) η} {e : η} {disk : Disk} {printed : List String}
    (h : g.Stored c.negotiatedTemplate contract s) (recipient : String)
    (hagreements : s.agreements = [])
    (hcalls : ∀ front, ∀ call ∈ calls, call.1.url ≠ front ++ contractPath)
    (hfloats : c.negotiatedTemplate.rule.FloatsReadBack)
    (hplain : Command.provisionNegotiated ⟨site.client, engine, now⟩ c d
      = (.ok g, ⟨s, e, disk, printed⟩))
    (hkept : Command.provisionNegotiated ⟨site.client.logging, engine, now⟩ c k
      = (.ok g, ⟨(s, calls), e, disk, printed⟩)) :
    ∃ result next calls' printed',
      Command.negotiateOffer ⟨site.client, engine, now⟩ c recipient d
        = (result, ⟨next, e, disk, printed'⟩) ∧
      Command.negotiateOffer ⟨site.client.logging, engine, now⟩ c recipient k
        = (result, ⟨(next, calls'), e, disk, printed'⟩) ∧
      Negotiated c.negotiatedTemplate contract site.baseUrl g result next calls' := by
  -- the description is requested in any case, and no contract before it
  have hsend := h.send_describe site recipient
  have hdescribed := Client.describe_eq (c := site.client) hsend rfl
  have hlater := Client.describe_eq (c := site.client.logging) (Client.logging_send hsend calls) rfl
  rw [g.describedValue hfloats] at hdescribed hlater
  have hfirst : ∀ call ∈ calls ++ [g.descriptionCall site.baseUrl recipient
      c.negotiatedTemplate.rule.policy], call.1.url ≠ site.baseUrl ++ contractPath := by
    intro call hcall
    rcases List.mem_append.mp hcall with hbefore | hlast
    · exact hcalls _ call hbefore
    · rw [List.mem_singleton.mp hlast]
      exact Client.url_describeRequest_ne_contract site.baseUrl _ _
  -- the depth decides whether the description is read, and then the policy whether it is bound
  by_cases hdepth : c.negotiatedTemplate.rule.policy.depth ≤ 123
  · rw [if_pos hdepth] at hdescribed hlater
    have hextract := g.extractPolicy_description c.negotiatedTemplate.rule.policy g.artifact
    cases hbound : c.negotiatedTemplate.rule.policy.set? "ids:target" (.str g.artifact.uri) with
    | none =>
        rw [hbound] at hextract
        exact ⟨_, s, _, _, Command.negotiateOffer_without_policy hplain hdescribed hextract,
          Command.negotiateOffer_without_policy hkept hlater hextract,
          .of_refused h hagreements hfirst fun hobject =>
            Json.not_isObject_of_set? hbound hobject.1⟩
    | some bound =>
        rw [hbound] at hextract
        have hagreed := h.send_contract site hbound recipient c.negotiation.download
        have hanswered := Client.negotiate_eq (c := site.client) hagreed rfl
        have hlast := Client.negotiate_eq (c := site.client.logging)
          (Client.logging_send hagreed (calls ++ [g.descriptionCall site.baseUrl recipient
            c.negotiatedTemplate.rule.policy])) rfl
        have hone : s.agreements ++ [site.agreement bound s] = [site.agreement bound s] :=
          congrArg (· ++ [site.agreement bound s]) hagreements
        exact ⟨_, _, _, _, Command.negotiateOffer_agreed hplain hdescribed hextract hanswered,
          Command.negotiateOffer_agreed hkept hlater hextract hlast,
          .of_agreed (h.with_agreements _) hone (site.permission_agreement bound s) hbound hdepth⟩
  · rw [if_neg hdepth] at hdescribed hlater
    exact ⟨_, s, _, _, Command.negotiateOffer_undescribed hplain hdescribed,
      Command.negotiateOffer_undescribed hkept hlater,
      .of_refused h hagreements hfirst fun hshallow => hdepth hshallow.2⟩

/-- The base URL of a dry run has no slash at its end, and so is kept as it is. -/
theorem Configuration.dryClient_eq (c : Configuration) (uuids : Nat → Uuid) :
    c.dryClient uuids = (Site.ofUrl c.connector.url uuids).client := by
  have hbase : withoutSlashes (withoutSlashes c.connector.url)
      = withoutSlashes c.connector.url := by
    rw [withoutSlashes, withoutSlashes, dropTrailing, dropTrailing, String.toList_ofList,
      dropEndWhile_idem]
  unfold dryClient connection ConnectionSettings.ofUrl
  simp only [Client.connect, Site.ofUrl, Site.client, hbase]

/-- The negotiation for any configuration against a new connector in place of the configured one:
both as it is run and with the calls kept.  UUIDs do not repeat, the time is in range if the offer
has no contract, and the floats in the policy, should it have any, read back from their texts. -/
theorem negotiateOffer_new {η : Type} (c : Configuration) (uuids : Nat → Uuid) (engine : Engine η)
    (now : Time.Instant) (recipient : String) (e : η) (disk : Disk)
    (hbase : startsBlank (withoutSlashes c.connector.url) = false)
    (hu : (Site.ofUrl c.connector.url uuids).Unrepeated
      (7 + c.negotiatedTemplate.endpoints.length))
    (hnow : c.negotiatedTemplate.contract = none → (ContractPayload.fromNow? now).isSome = true)
    (hfloats : c.negotiatedTemplate.rule.FloatsReadBack) :
    ∃ contract g result next calls printed,
      c.negotiatedTemplate.contractOrNow? now = some contract ∧
      Command.negotiateOffer ⟨c.dryClient uuids, engine, now⟩ c recipient (.start .empty e disk)
        = (result, ⟨next, e, disk, printed⟩) ∧
      Command.negotiateOffer ⟨(c.dryClient uuids).logging, engine, now⟩ c recipient
          (.start (.empty, []) e disk)
        = (result, ⟨(next, calls), e, disk, printed⟩) ∧
      Negotiated c.negotiatedTemplate contract (c.dryClient uuids).baseUrl g result next calls := by
  obtain ⟨contract, hcontract⟩ := c.negotiatedTemplate.exists_contractOrNow hnow
  have hstart : startsBlank (Site.ofUrl c.connector.url uuids).baseUrl = false := hbase
  obtain ⟨plan, slots, report, s, g, hoffer, hrun, hcomplete, hg, hstored, hagreements⟩ :=
    Site.provision_new hstart hu hcontract 0
  generalize hsite : Site.ofUrl c.connector.url uuids = site at hu hrun
  rw [c.dryClient_eq uuids, hsite]
  obtain ⟨calls, hlogged, hcalls⟩ := (Plan.built_of_offer hoffer).run_logging hrun
  have hplain := Command.provisionNegotiated_eq (p := ⟨site.client, engine, now⟩) (c := c)
    (d := .start .empty e disk) hoffer hrun hcomplete hg
  have hkept := Command.provisionNegotiated_eq (p := ⟨site.client.logging, engine, now⟩) (c := c)
    (d := .start (.empty, []) e disk) hoffer hlogged hcomplete hg
  obtain ⟨result, next, calls', printed, hresult, hlog, hnegotiated⟩ :=
    hstored.negotiates recipient hagreements hcalls hfloats hplain hkept
  exact ⟨contract, g, result, next, calls', printed, hcontract, hresult, hlog, hnegotiated⟩

/-- A policy with a number that is no integer is agreed on. -/
theorem negotiateOffer_new_agreed :
    let t := { OfferTemplate.negotiation with
      contract := some ⟨"a", "b"⟩
      rule := { RulePayload.sample with value := "\x7b\"limit\":[0.5]\x7d" } }
    let c : Configuration := ⟨⟨"https://c/", "u", "p", false, 5, none⟩, .remote, .empty,
      ⟨none, none⟩, some t, .empty⟩
    let site := Site.counting "https://c"
    let engine : Engine Unit := ⟨fun _ _ _ => pure (), fun _ => pure (), fun _ _ => pure (),
      fun _ => pure none, pure []⟩
    Site.ofUrl c.connector.url site.uuids = site ∧
      (∃ v x, Json.parse? t.rule.value = some v ∧ .float x ∈ v.numbers) ∧
      ∃ outcome agreement d, Command.negotiateOffer ⟨c.dryClient site.uuids, engine, ⟨0, 0⟩⟩ c "r"
        (.start .empty () ⟨"/", [], []⟩) = (.ok outcome, d) ∧ d.link.agreements = [agreement] ∧
        agreement.get? "ids:permission" = some (.arr [outcome.policy]) := by
  intro t c site engine
  have hsite : Site.ofUrl c.connector.url site.uuids = site := by
    have hbase : withoutSlashes c.connector.url = "https://c" := by decide +kernel
    rw [Site.ofUrl, hbase]
    rfl
  have hread : (Json.parse? t.rule.value).map (fun v => (v.isObject, v.depth, v.numbers))
      = some (true, 2, [.float ⟨false, Nat.pow 2 1073⟩]) := by
    decide +kernel
  have hback : Json.ReadsBack (.float ⟨false, Nat.pow 2 1073⟩) := by
    unfold Json.ReadsBack
    decide +kernel
  obtain ⟨v, hparse, hshape⟩ := Option.map_eq_some_iff.mp hread
  obtain ⟨hobject, hrest⟩ := Prod.mk.inj hshape
  obtain ⟨hdepth, hnumbers⟩ := Prod.mk.inj hrest
  have hfloats : t.rule.FloatsReadBack := by
    intro w hw x hx
    cases hparse.symm.trans hw
    rw [hnumbers] at hx
    cases List.mem_singleton.mp hx
    exact hback
  obtain ⟨contract, g, result, next, calls, printed, -, hrun, -, hnegotiated⟩ :=
    negotiateOffer_new c site.uuids engine ⟨0, 0⟩ "r" () ⟨"/", [], []⟩ (by decide +kernel)
      (hsite ▸ Site.counting_unrepeated (by decide +kernel)) (fun h => nomatch h) hfloats
  have hok : result.isOk = true := hnegotiated.succeeds.mpr ⟨v, hparse, hobject, hdepth ▸ by decide⟩
  cases result with
  | error e => cases hok
  | ok outcome =>
      obtain ⟨-, -, agreement, hagreements, hpermission⟩ := hnegotiated.agreed outcome rfl
      refine ⟨hsite, ⟨v, _, hparse, hnumbers ▸ List.mem_singleton_self _⟩, outcome, agreement,
        _, hrun, hagreements, hpermission⟩

end Dataspace
