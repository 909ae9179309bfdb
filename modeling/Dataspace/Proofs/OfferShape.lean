/-
The shape of an offer's plan.

An offer has one thing of each sort and any number of endpoints: payloads, slots,
handles, URIs.  `Offered` is that shape for things of any type, with the order of
creation and the links between them.  Numbered in the order of creation, the
slots of an offer's plan are of this shape; the plan creates the entities of the
template one after the other and then makes the links.
-/
import Dataspace.Connector.Store
import Dataspace.Plan.Offer
import Dataspace.Proofs.PlanShape

namespace Dataspace

/-! ## Things of an offer -/

/-- One thing for each payload of an offer. -/
structure Offered (α : Type) where
  catalog : α
  resource : α
  representation : α
  app : α
  endpoints : List α
  artifact : α
  contract : α
  rule : α

namespace Offered

variable {α β : Type}

def map (f : α → β) (o : Offered α) : Offered β :=
  ⟨f o.catalog, f o.resource, f o.representation, f o.app, o.endpoints.map f, f o.artifact,
    f o.contract, f o.rule⟩

/-- All of them, in the order of creation. -/
def all (o : Offered α) : List α :=
  [o.catalog, o.resource, o.representation, o.app] ++ o.endpoints ++
  [o.artifact, o.contract, o.rule]

/-- The links of an offer, each a parent and a child: the catalog with the resource, the
resource with the representation, the representation with the app, the app with each
endpoint, the representation with the artifact, the resource with the contract, and the
contract with the rule. -/
def links (o : Offered α) : List (α × α) :=
  [(o.catalog, o.resource), (o.resource, o.representation), (o.representation, o.app)]
  ++ o.endpoints.map (fun e => (o.app, e)) ++
  [(o.representation, o.artifact), (o.resource, o.contract), (o.contract, o.rule)]

theorem all_map (f : α → β) (o : Offered α) : (o.map f).all = o.all.map f := by
  simp [all, map]

theorem links_map (f : α → β) (o : Offered α) :
    (o.map f).links = o.links.map (Prod.map f f) := by
  simp [links, map]

/-- Everything but the catalog is the child of one link, in the order of creation. -/
theorem snd_links (o : Offered α) : o.links.map Prod.snd = o.all.tail := by
  simp [links, all, Function.comp_def]

theorem length_all (o : Offered α) : o.all.length = 7 + o.endpoints.length := by
  simp [all]
  omega

/-- Things in the same order of creation, with as many endpoints, are the same. -/
theorem eq_of_all {o o' : Offered α} (hlength : o.endpoints.length = o'.endpoints.length)
    (h : o.all = o'.all) : o = o' := by
  obtain ⟨c, r, p, a, es, f, k, u⟩ := o
  obtain ⟨c', r', p', a', es', f', k', u'⟩ := o'
  have hfront := List.append_inj_left h (by simpa using hlength)
  have hback := List.append_inj_right h (by simpa using hlength)
  simp only [List.cons_append, List.nil_append, List.cons.injEq] at hfront hback
  simp [hfront, hback]

theorem forall_all {P : α → Prop} {o : Offered α} :
    (∀ x ∈ o.all, P x) ↔ P o.catalog ∧ P o.resource ∧ P o.representation ∧ P o.app ∧
      (∀ x ∈ o.endpoints, P x) ∧ P o.artifact ∧ P o.contract ∧ P o.rule := by
  simp [all, or_imp, forall_and]

theorem forall_links {P : α × α → Prop} {o : Offered α} :
    (∀ l ∈ o.links, P l) ↔ P (o.catalog, o.resource) ∧ P (o.resource, o.representation) ∧
      P (o.representation, o.app) ∧ (∀ e ∈ o.endpoints, P (o.app, e)) ∧
      P (o.representation, o.artifact) ∧ P (o.resource, o.contract) ∧
      P (o.contract, o.rule) := by
  simp [links, or_imp, forall_and]

theorem map_some_filterMap_id {l : List (Option α)} (h : ∀ x ∈ l, x.isSome = true) :
    (l.filterMap id).map some = l := by
  induction l with
  | nil => rfl
  | cons x rest ih =>
      obtain ⟨hx, hrest⟩ := List.forall_mem_cons.mp h
      obtain ⟨a, rfl⟩ := Option.isSome_iff_exists.mp hx
      exact congrArg (some a :: ·) (ih hrest)

/-- Things that could be missing, of which none is. -/
theorem exists_of_isSome {o : Offered (Option α)} (h : ∀ x ∈ o.all, x.isSome = true) :
    ∃ w : Offered α, o = w.map some := by
  obtain ⟨c, r, p, a, es, f, k, u⟩ := o
  obtain ⟨hc, hr, hp, ha, hes, hf, hk, hu⟩ := forall_all.mp h
  have hendpoints : (es.filterMap id).map some = es := map_some_filterMap_id hes
  refine ⟨⟨c.get hc, r.get hr, p.get hp, a.get ha, es.filterMap id, f.get hf, k.get hk,
    u.get hu⟩, ?_⟩
  simp only [map, hendpoints, Option.some_get]

/-- The places in the order of creation, for so many endpoints. -/
def places (endpoints : Nat) : Offered Nat :=
  ⟨0, 1, 2, 3, (List.range endpoints).map (4 + ·), 4 + endpoints, 5 + endpoints, 6 + endpoints⟩

theorem all_places (n : Nat) : (places n).all = List.range (7 + n) := by
  have hsplit : List.range (7 + n) = List.range (4 + n) ++ [4 + n, 5 + n, 6 + n] := by
    rw [show 7 + n = 4 + n + 3 by omega, List.range_add]
    simp [List.range, List.range.loop]
    omega
  rw [hsplit, List.range_add]
  simp [all, places, List.range, List.range.loop]

/-- At the places are the things themselves. -/
theorem map_places (o : Offered α) :
    (places o.endpoints.length).map (fun i => o.all[i]?) = o.map some := by
  refine eq_of_all (by simp [map, places]) ?_
  rw [all_map, all_map, all_places, ← length_all]
  refine List.ext_getElem? ?_
  intro i
  by_cases hi : i < o.all.length
  · simp [hi]
  · simp [hi]

theorem mem_all_of_mem_links {o : Offered α} : ∀ l ∈ o.links, l.1 ∈ o.all ∧ l.2 ∈ o.all :=
  forall_links.mpr (by simp +contextual [all])

/-- At linked places are linked things. -/
theorem getElem?_of_mem_links {o : Offered α} {l : Nat × Nat}
    (h : l ∈ (places o.endpoints.length).links) :
    ∃ m ∈ o.links, o.all[l.1]? = some m.1 ∧ o.all[l.2]? = some m.2 := by
  have hmap := congrArg links o.map_places
  rw [links_map, links_map] at hmap
  have hmem := hmap ▸ List.mem_map_of_mem h
  obtain ⟨m, hm, heq⟩ := List.mem_map.mp hmem
  exact ⟨m, hm, (congrArg Prod.fst heq).symm, (congrArg Prod.snd heq).symm⟩

end Offered

/-! ## The entities of a template -/

/-- The entity that a part of an offer becomes. -/
def OfferPart.entity (part : OfferPart) : Entity :=
  ⟨part.kind, part.fields⟩

namespace OfferTemplate

/-- The entities of an offer, each with the fields of its payload. -/
def entities (t : OfferTemplate) (contract : ContractPayload) : Offered Entity where
  catalog := ⟨.catalog, t.catalog.toJson⟩
  resource := ⟨.resource, t.resource.toJson⟩
  representation := ⟨.representation, t.representation.toJson⟩
  app := ⟨.app, t.app.toJson⟩
  endpoints := t.endpoints.map fun e => ⟨.endpoint, e.toJson⟩
  artifact := ⟨.artifact, t.artifact.toJson⟩
  contract := ⟨.contract, contract.toJson⟩
  rule := ⟨.rule, t.rule.toJson⟩

variable (t : OfferTemplate) (contract : ContractPayload)

theorem length_entities : (t.entities contract).endpoints.length = t.endpoints.length :=
  List.length_map _

theorem entities_of_parts :
    (t.parts contract).map OfferPart.entity = (t.entities contract).all := by
  have hendpoints : t.endpointParts.map OfferPart.entity
      = t.endpoints.map fun e => ⟨.endpoint, e.toJson⟩ := by
    have hfst : t.endpoints = t.endpoints.zipIdx.map Prod.fst := (List.zipIdx_map_fst 0 _).symm
    rw [endpointParts, List.map_map, hfst, List.map_map, ← hfst]
    rfl
  rw [parts, List.map_append, List.map_append, hendpoints]
  rfl

theorem length_all_entities : (t.entities contract).all.length = 7 + t.endpoints.length := by
  rw [Offered.length_all, length_entities]

theorem length_parts : (t.parts contract).length = 7 + t.endpoints.length := by
  rw [← List.length_map OfferPart.entity, entities_of_parts, length_all_entities]

/-- Every payload is written as an object. -/
theorem isObject_of_mem : ∀ e ∈ (t.entities contract).all, e.fields.isObject = true := by
  refine Offered.forall_all.mpr ⟨rfl, rfl, rfl, rfl, ?_, rfl, rfl, rfl⟩
  intro e he
  obtain ⟨p, -, rfl⟩ := List.mem_map.mp he
  rfl

/-- Linked entities are of kinds that go together. -/
theorem accepts_of_mem_links : ∀ l ∈ (t.entities contract).links,
    l.1.kind.accepts l.2.kind = true := by
  refine Offered.forall_links.mpr ⟨rfl, rfl, rfl, ?_, rfl, rfl, rfl⟩
  intro e he
  obtain ⟨p, -, rfl⟩ := List.mem_map.mp he
  rfl

theorem contractOrNow?_eq_some_iff {now : Time.Instant} :
    t.contractOrNow? now = some contract ↔ t.contract = some contract ∨
      t.contract = none ∧ ContractPayload.fromNow? now = some contract := by
  unfold contractOrNow?
  cases t.contract with
  | some given => simp
  | none => simp

/-- There is a contract: the one of the offer, or one from now on. -/
theorem exists_contractOrNow {now : Time.Instant}
    (hnow : t.contract = none → (ContractPayload.fromNow? now).isSome = true) :
    ∃ contract, t.contractOrNow? now = some contract := by
  unfold contractOrNow?
  cases ht : t.contract with
  | some contract => exact ⟨contract, rfl⟩
  | none => exact Option.isSome_iff_exists.mp (hnow ht)

end OfferTemplate

/-! ## The plan -/

namespace Plan

/-- The steps that create parts and write one slot after the other. -/
def createSteps : Nat → List OfferPart → List Step
  | _, [] => []
  | slot, part :: rest =>
    ⟨"create " ++ part.label, .create part.kind part.fields slot⟩ :: createSteps (slot + 1) rest

theorem creates_createSteps (slot : Nat) (parts : List OfferPart) :
    (createSteps slot parts).map Step.creates = parts.map fun part => some part.kind := by
  induction parts generalizing slot with
  | nil => rfl
  | cons part rest ih => exact congrArg (some part.kind :: ·) (ih (slot + 1))

theorem createParts_eq (p : Plan) (parts : List OfferPart) :
    p.createParts parts = ⟨p.id, p.slots ++ parts.map (fun part => ⟨part.label, part.kind⟩),
      p.steps ++ createSteps p.slots.length parts⟩ := by
  induction parts generalizing p with
  | nil => simp [createParts, createSteps]
  | cons part rest ih =>
      rw [createParts, List.foldl_cons, ← createParts, ih]
      simp [create, createSteps]

/-- Links between slots whose kinds go together are all taken in. -/
theorem linkPairs_of_joins {pairs : List (Slot × Slot)} {p : Plan}
    (h : ∀ l ∈ pairs, p.Joins l.1 l.2) :
    ∃ steps, p.linkPairs pairs = .ok { p with steps := p.steps ++ steps } ∧
      steps.map Step.action = pairs.map fun l => .link l.1.index l.2.index := by
  induction pairs generalizing p with
  | nil => exact ⟨[], by simp [linkPairs, pure, Except.pure], rfl⟩
  | cons l rest ih =>
      obtain ⟨label, hlink⟩ := link_of_joins (h l List.mem_cons_self)
      obtain ⟨steps, hrest, hactions⟩ :=
        ih (p := { p with steps := p.steps ++ [⟨label, .link l.1.index l.2.index⟩] })
          fun m hm => h m (List.mem_cons_of_mem _ hm)
      refine ⟨⟨label, .link l.1.index l.2.index⟩ :: steps, ?_, by simp [hactions]⟩
      rw [linkPairs, List.foldlM_cons, hlink]
      refine hrest.trans ?_
      simp

theorem createParts_new (id : Nat) (parts : List OfferPart) :
    (new id).createParts parts =
      ⟨id, parts.map (fun part => ⟨part.label, part.kind⟩), createSteps 0 parts⟩ :=
  createParts_eq (new id) parts

theorem ofPlan_links (id n : Nat) : (OfferSlots.ofPlan id n).links =
    (Offered.places n).links.map fun l => (⟨id, l.1⟩, ⟨id, l.2⟩) := by
  simp [OfferSlots.links, OfferSlots.ofPlan, Offered.links, Offered.places]

/-- The slots that an offer links are of kinds that go together. -/
theorem joins_of_mem_links (id : Nat) (t : OfferTemplate) (contract : ContractPayload) :
    ∀ l ∈ (OfferSlots.ofPlan id t.endpoints.length).links,
      ((new id).createParts (t.parts contract)).Joins l.1 l.2 := by
  have hslot : ∀ (i : Nat) (e : Entity), (t.entities contract).all[i]? = some e →
      ∃ info : SlotInfo, ((new id).createParts (t.parts contract)).slots[i]? = some info ∧
        info.kind = e.kind := by
    intro i e he
    rw [← OfferTemplate.entities_of_parts, List.getElem?_map] at he
    obtain ⟨part, hpart, rfl⟩ := Option.map_eq_some_iff.mp he
    exact ⟨⟨part.label, part.kind⟩, by simp [createParts_new, hpart], rfl⟩
  intro l hl
  rw [ofPlan_links] at hl
  obtain ⟨m, hm, rfl⟩ := List.mem_map.mp hl
  rw [← t.length_entities contract] at hm
  obtain ⟨e, he, hparent, hchild⟩ := Offered.getElem?_of_mem_links hm
  obtain ⟨parentInfo, hparent', hparentKind⟩ := hslot _ _ hparent
  obtain ⟨childInfo, hchild', hchildKind⟩ := hslot _ _ hchild
  refine ⟨parentInfo, childInfo, ?_, ?_, hparent', hchild', ?_⟩
  · rw [createParts_new]
  · rw [createParts_new]
  · rw [hparentKind, hchildKind]
    exact t.accepts_of_mem_links contract e he

/-- The plan of an offer: it creates the parts in their order and then makes the links. -/
theorem offer_eq {t : OfferTemplate} {now : Time.Instant} {contract : ContractPayload}
    (hcontract : t.contractOrNow? now = some contract) (id : Nat) :
    ∃ plan links, offer id t now = .ok (plan, .ofPlan id t.endpoints.length) ∧
      plan.id = id ∧ plan.slots.length = 7 + t.endpoints.length ∧
      plan.steps = createSteps 0 (t.parts contract) ++ links ∧
      links.map Step.action =
        (Offered.places t.endpoints.length).links.map fun l => .link l.1 l.2 := by
  obtain ⟨links, hlinks, hactions⟩ := linkPairs_of_joins (joins_of_mem_links id t contract)
  have hoffer : offer id t now = .ok
      ({ (new id).createParts (t.parts contract) with
          steps := ((new id).createParts (t.parts contract)).steps ++ links },
        .ofPlan id t.endpoints.length) := by
    simp only [offer, hcontract, hlinks]
  rw [createParts_new] at hoffer
  refine ⟨_, links, hoffer, rfl, ?_, rfl, ?_⟩
  · rw [List.length_map, OfferTemplate.length_parts]
  · rw [hactions, ofPlan_links, List.map_map]
    rfl

/-- An offer's plan creates one entity after the other, and then none. -/
theorem creates_of_offer {t : OfferTemplate} {now : Time.Instant} {contract : ContractPayload}
    (hcontract : t.contractOrNow? now = some contract) {id : Nat} {plan : Plan}
    {slots : OfferSlots} (h : offer id t now = .ok (plan, slots)) :
    plan.steps.map Step.creates = (t.entities contract).all.map (fun e => some e.kind)
      ++ List.replicate (6 + t.endpoints.length) none := by
  obtain ⟨plan', links, hoffer, -, -, hsteps, hactions⟩ := offer_eq hcontract id
  cases hoffer.symm.trans h
  have hlinks : links.map Step.creates = List.replicate (6 + t.endpoints.length) none := by
    have hlength : links.length = 6 + t.endpoints.length := by
      rw [← List.length_map Step.action, hactions]
      simp [Offered.links, Offered.places]
      omega
    rw [← hlength]
    refine List.map_eq_replicate_iff.mpr ?_
    intro step hstep
    obtain ⟨l, -, hl⟩ := List.mem_map.mp (hactions ▸ List.mem_map_of_mem hstep)
    rw [Step.creates, ← hl]
  rw [hsteps, List.map_append, hlinks, creates_createSteps, ← OfferTemplate.entities_of_parts,
    List.map_map]
  rfl

theorem Built.createParts {p : Plan} (h : p.Built) (parts : List OfferPart) :
    (p.createParts parts).Built := by
  induction parts generalizing p with
  | nil => exact h
  | cons part rest ih => exact ih (.create part.label part.kind part.fields h)

theorem Built.linkPairs {p q : Plan} (h : p.Built) {pairs : List (Slot × Slot)}
    (hq : p.linkPairs pairs = .ok q) : q.Built := by
  induction pairs generalizing p with
  | nil =>
      cases hq
      exact h
  | cons pair rest ih =>
      rw [Plan.linkPairs, List.foldlM_cons] at hq
      cases hlink : p.link pair.1 pair.2 with
      | error fault => simp [hlink, bind, Except.bind] at hq
      | ok m =>
          simp only [hlink, bind, Except.bind] at hq
          exact ih (.link h hlink) hq

/-- The plan of an offer is built by creates and links. -/
theorem built_of_offer {id : Nat} {t : OfferTemplate} {now : Time.Instant} {plan : Plan}
    {slots : OfferSlots} (h : offer id t now = .ok (plan, slots)) : plan.Built := by
  unfold offer at h
  split at h
  · cases h
  · rename_i contract hcontract
    simp only at h
    split at h
    · rename_i linked hlinked
      cases h
      exact (Built.createParts (.new id) _).linkPairs hlinked
    · cases h

end Plan

/-! ## The handles of a run -/

/-- The handles of a provisioned offer. -/
def OfferGraph.handles (g : OfferGraph) : Offered Handle :=
  ⟨g.catalog, g.resource, g.representation, g.app, g.endpoints, g.artifact, g.contract, g.rule⟩

theorem mapM_eq_some_iff {α β : Type} {f : α → Option β} {l : List α} {m : List β} :
    l.mapM f = some m ↔ l.map f = m.map some := by
  induction l generalizing m with
  | nil => cases m <;> simp
  | cons a l ih =>
      rw [List.mapM_cons]
      constructor
      · intro h
        obtain ⟨b, hb, h⟩ := Option.bind_eq_some_iff.mp h
        obtain ⟨bs, hbs, h⟩ := Option.bind_eq_some_iff.mp h
        cases h
        rw [List.map_cons, List.map_cons, hb, ih.mp hbs]
      · intro h
        cases m with
        | nil => cases h
        | cons b bs =>
            obtain ⟨hb, hbs⟩ := List.cons.inj h
            simp [hb, ih.mpr hbs]

theorem OfferSlots.resolve_eq_some_iff {s : OfferSlots} {r : Report} {g : OfferGraph} :
    s.resolve r = some g ↔
      r.handleOfKind? .catalog s.catalog = some g.catalog ∧
      r.handleOfKind? .resource s.resource = some g.resource ∧
      r.handleOfKind? .representation s.representation = some g.representation ∧
      r.handleOfKind? .app s.app = some g.app ∧
      s.endpoints.map (r.handleOfKind? .endpoint) = g.endpoints.map some ∧
      r.handleOfKind? .artifact s.artifact = some g.artifact ∧
      r.handleOfKind? .contract s.contract = some g.contract ∧
      r.handleOfKind? .rule s.rule = some g.rule := by
  obtain ⟨_, _, _, _, _, _, _, _⟩ := g
  simp only [resolve, Option.bind_eq_bind, Option.bind_eq_some_iff, Option.pure_def,
    Option.some.injEq, OfferGraph.mk.injEq, ← mapM_eq_some_iff]
  constructor
  · rintro ⟨_, h₁, _, h₂, _, h₃, _, h₄, _, h₅, _, h₆, _, h₇, _, h₈, rfl,
      rfl, rfl, rfl, rfl, rfl, rfl, rfl⟩
    exact ⟨h₁, h₂, h₃, h₄, h₅, h₆, h₇, h₈⟩
  · rintro ⟨h₁, h₂, h₃, h₄, h₅, h₆, h₇, h₈⟩
    exact ⟨_, h₁, _, h₂, _, h₃, _, h₄, _, h₅, _, h₆, _, h₇, _, h₈, rfl,
      rfl, rfl, rfl, rfl, rfl, rfl, rfl⟩

/-- When every handle is of its entity's kind, an offer is resolved to what its slots
hold. -/
theorem OfferSlots.resolve_ofPlan {t : OfferTemplate} {contract : ContractPayload} {r : Report}
    {g : OfferGraph} (hkinds : ∀ (i : Nat) (e : Entity) (h : Handle),
      (t.entities contract).all[i]? = some e → r.handles[i]?.join = some h → h.kind = e.kind) :
    (OfferSlots.ofPlan r.plan t.endpoints.length).resolve r = some g ↔
      (Offered.places t.endpoints.length).map (fun i => r.handles[i]?.join)
        = g.handles.map some := by
  have hat : ∀ (i : Nat) (e : Entity), (t.entities contract).all[i]? = some e →
      r.handleOfKind? e.kind ⟨r.plan, i⟩ = r.handles[i]?.join := by
    intro i e he
    rw [Report.handleOfKind?, Report.handle?, if_pos rfl]
    cases hh : r.handles[i]?.join with
    | none => rfl
    | some h => simp [hkinds i e h he hh]
  have hplaces := (t.entities contract).map_places
  rw [t.length_entities contract] at hplaces
  have hendpoints : (OfferSlots.ofPlan r.plan t.endpoints.length).endpoints.map
        (r.handleOfKind? .endpoint)
      = ((List.range t.endpoints.length).map (4 + ·)).map fun i => r.handles[i]?.join := by
    have hall : ((List.range t.endpoints.length).map (4 + ·)).map
        (fun i => (t.entities contract).all[i]?) = (t.entities contract).endpoints.map some :=
      congrArg Offered.endpoints hplaces
    simp only [ofPlan, List.map_map] at hall ⊢
    refine List.map_congr_left ?_
    intro i hi
    obtain ⟨e, he, heq⟩ := List.mem_map.mp (hall ▸ List.mem_map_of_mem hi)
    obtain ⟨p, -, rfl⟩ := List.mem_map.mp he
    exact hat (4 + i) _ heq.symm
  have hcatalog : r.handleOfKind? .catalog ⟨r.plan, 0⟩ = r.handles[0]?.join :=
    hat _ _ (congrArg Offered.catalog hplaces)
  have hresource : r.handleOfKind? .resource ⟨r.plan, 1⟩ = r.handles[1]?.join :=
    hat _ _ (congrArg Offered.resource hplaces)
  have hrepresentation : r.handleOfKind? .representation ⟨r.plan, 2⟩ = r.handles[2]?.join :=
    hat _ _ (congrArg Offered.representation hplaces)
  have happ : r.handleOfKind? .app ⟨r.plan, 3⟩ = r.handles[3]?.join :=
    hat _ _ (congrArg Offered.app hplaces)
  have hartifact : r.handleOfKind? .artifact ⟨r.plan, 4 + t.endpoints.length⟩
      = r.handles[4 + t.endpoints.length]?.join := hat _ _ (congrArg Offered.artifact hplaces)
  have hcontract : r.handleOfKind? .contract ⟨r.plan, 5 + t.endpoints.length⟩
      = r.handles[5 + t.endpoints.length]?.join := hat _ _ (congrArg Offered.contract hplaces)
  have hrule : r.handleOfKind? .rule ⟨r.plan, 6 + t.endpoints.length⟩
      = r.handles[6 + t.endpoints.length]?.join := hat _ _ (congrArg Offered.rule hplaces)
  rw [resolve_eq_some_iff, hendpoints]
  simp only [ofPlan, hcatalog, hresource, hrepresentation, happ, hartifact, hcontract, hrule,
    OfferGraph.handles, Offered.map, Offered.places, Offered.mk.injEq]

end Dataspace
