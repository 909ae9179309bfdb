/-
What an offer leaves in the connector.

The entities of a provisioned offer stand under URIs of their own, so the links
between them are new ones, and every entity but the catalog is the child of at
most one.  Whether the report is complete and whether the offer can be resolved
depend on the kinds that cannot be created and on nothing else.
-/
import Dataspace.Proofs.OfferRun

namespace Dataspace

open Text

/-! ## Entities and links of which some are missing -/

theorem keys_keyed {uris : List (Option String)} {es : List Entity}
    (h : uris.length = es.length) : (keyed uris es).map Prod.fst = uris.filterMap id := by
  induction uris generalizing es with
  | nil => rfl
  | cons uri rest ih =>
      cases es with
      | nil => cases h
      | cons e es =>
          have hrest := ih (Nat.succ.inj h)
          cases uri with
          | none => exact hrest
          | some u => exact congrArg (u :: ·) hrest

/-- An entity that is not the first has a URI that is not the first. -/
theorem mem_tail_of_mem_keyed {uris : List (Option String)} {es : List Entity}
    {p : String × Entity} (hp : p ∈ keyed uris es) (hne : es.head? ≠ some p.2) :
    p.1 ∈ uris.tail.filterMap id := by
  obtain ⟨q, hq, heq⟩ := List.mem_filterMap.mp hp
  obtain ⟨uri, huri, rfl⟩ := Option.map_eq_some_iff.mp heq
  cases uris with
  | nil => cases hq
  | cons u us =>
      cases es with
      | nil => cases hq
      | cons e es =>
          rcases List.mem_cons.mp hq with rfl | hq
          · exact absurd rfl hne
          · exact List.mem_filterMap.mpr ⟨q.1, (List.of_mem_zip hq).1, huri⟩

/-- A link that is there has its child among the children that are there. -/
theorem children_paired (links : List (Option String × Option String)) :
    ((paired links).map Prod.snd).Sublist ((links.map Prod.snd).filterMap id) := by
  induction links with
  | nil => exact List.Sublist.refl _
  | cons l rest ih =>
      obtain ⟨parent, child⟩ := l
      cases child with
      | none =>
          cases parent with
          | none => exact ih
          | some _ => exact ih
      | some c =>
          cases parent with
          | none => exact ih.cons c
          | some _ => exact ih.cons_cons c

/-- When no parent is missing, these are the same. -/
theorem children_paired_eq {links : List (Option String × Option String)}
    (h : ∀ l ∈ links, l.1.isSome = true) :
    (paired links).map Prod.snd = (links.map Prod.snd).filterMap id := by
  induction links with
  | nil => rfl
  | cons l rest ih =>
      obtain ⟨hl, hrest⟩ := List.forall_mem_cons.mp h
      obtain ⟨parent, child⟩ := l
      obtain ⟨p, rfl⟩ := Option.isSome_iff_exists.mp hl
      cases child with
      | none => exact ih hrest
      | some c => exact congrArg (c :: ·) (ih hrest)

/-- Of links with different children one has a given child. -/
theorem filter_child {links : List (String × String)} (h : (links.map Prod.snd).Nodup)
    {l : String × String} (hl : l ∈ links) : links.filter (fun m => m.2 == l.2) = [l] := by
  induction links with
  | nil => exact absurd hl List.not_mem_nil
  | cons m rest ih =>
      obtain ⟨hm, hrest⟩ := List.nodup_cons.mp h
      rcases List.mem_cons.mp hl with rfl | hl
      · have hnone : rest.filter (fun m => m.2 == l.2) = [] := by
          refine List.filter_eq_nil_iff.mpr ?_
          intro m hmem heq
          refine hm ?_
          exact List.mem_map.mpr ⟨m, hmem, beq_iff_eq.mp heq⟩
        simp only [List.filter_cons, beq_self_eq_true, if_true, hnone]
      · have hne : ¬ (m.2 == l.2) = true := by
          intro heq
          exact hm (beq_iff_eq.mp heq ▸ List.mem_map_of_mem hl)
        simp only [List.filter_cons, if_neg hne]
        exact ih hrest hl

/-! ## The links of an offer -/

theorem children_sublist (uris : Offered (Option String)) :
    ((paired uris.links).map Prod.snd).Sublist (uris.all.filterMap id) := by
  have hsub := children_paired uris.links
  rw [uris.snd_links] at hsub
  exact hsub.trans ((List.tail_sublist _).filterMap id)

namespace Placed

variable {site : Site} {s v : Store} {t : OfferTemplate} {contract : ContractPayload}
  {handles : List (Option Handle)}

theorem length_handles (h : Placed site s (t.entities contract).all handles v) :
    handles.length = 7 + t.endpoints.length :=
  h.length.trans (t.length_all_entities contract)

/-- The URIs of an offer's entities are different, and none was in use. -/
theorem fresh_uris (h : Placed site s (t.entities contract).all handles v) :
    ((heldUris handles t.endpoints.length).all.filterMap id ++ s.entities.map Prod.fst).Nodup := by
  have hkeys := h.keys_nodup
  rw [List.map_append, keys_keyed ((List.length_map _).trans h.length)] at hkeys
  rw [all_heldUris h.length_handles]
  exact hkeys

/-- Different links of an offer have different children. -/
theorem nodup_children (h : Placed site s (t.entities contract).all handles v) :
    ((paired (heldUris handles t.endpoints.length).links).map Prod.snd).Nodup :=
  (List.nodup_append.mp h.fresh_uris).1.sublist (children_sublist _)

/-- A child of one of the offer's links is no child of an earlier link. -/
theorem child_not_mem (hs : s.Sound site) (h : Placed site s (t.entities contract).all handles v)
    {l m : String × String} (hl : l ∈ s.links)
    (hm : m ∈ paired (heldUris handles t.endpoints.length).links) : l.2 ≠ m.2 := by
  obtain ⟨parent, child, -, hchild, -⟩ := hs.linked l hl
  obtain ⟨e, he, -⟩ := Store.entity?_of_kindOf? hchild
  have hold : l.2 ∈ s.entities.map Prod.fst :=
    List.mem_map.mpr ⟨(l.2, e), Store.mem_of_entity? he, rfl⟩
  have hnew : m.2 ∈ (heldUris handles t.endpoints.length).all.filterMap id :=
    (children_sublist _).subset (List.mem_map_of_mem hm)
  intro heq
  exact (List.nodup_append.mp h.fresh_uris).2.2 _ hnew _ hold heq.symm

theorem nodup_links (hs : s.Sound site) (h : Placed site s (t.entities contract).all handles v) :
    (s.links ++ paired (heldUris handles t.endpoints.length).links).Nodup := by
  have hpaired : (paired (heldUris handles t.endpoints.length).links).Nodup :=
    List.Pairwise.of_map Prod.snd (fun _ _ hne heq => hne (congrArg Prod.snd heq))
      h.nodup_children
  refine List.nodup_append.mpr ⟨hs.linkedOnce, hpaired, ?_⟩
  rintro l hl m hm rfl
  exact h.child_not_mem hs hl hm rfl

/-- When nothing is missing, every entity but the catalog has exactly one parent. -/
theorem one_parent (hs : s.Sound site) (h : Placed site s (t.entities contract).all handles v)
    (hall : ∀ x ∈ handles, x.isSome = true) {p : String × Entity}
    (hp : p ∈ keyed (heldUris handles t.endpoints.length).all (t.entities contract).all)
    (hkind : p.2.kind ≠ .catalog) :
    ∃ parent, (s.links ++ paired (heldUris handles t.endpoints.length).links).filter
      (fun l => l.2 == p.1) = [(parent, p.1)] := by
  have hparents : ∀ l ∈ (heldUris handles t.endpoints.length).links, l.1.isSome = true := by
    intro l hl
    have hmem := (Offered.mem_all_of_mem_links l hl).1
    rw [all_heldUris h.length_handles] at hmem
    obtain ⟨x, hx, heq⟩ := List.mem_map.mp hmem
    rw [← heq, Option.isSome_map]
    exact hall x hx
  have hchildren := children_paired_eq hparents
  rw [Offered.snd_links] at hchildren
  have htail : p.1 ∈ (heldUris handles t.endpoints.length).all.tail.filterMap id :=
    mem_tail_of_mem_keyed hp fun h => hkind (congrArg Entity.kind (Option.some.inj h)).symm
  rw [← hchildren] at htail
  obtain ⟨l, hl, heq⟩ := List.mem_map.mp htail
  refine ⟨l.1, ?_⟩
  have hold : s.links.filter (fun m => m.2 == p.1) = [] := by
    refine List.filter_eq_nil_iff.mpr ?_
    intro m hm hbeq
    exact h.child_not_mem hs hm hl ((beq_iff_eq.mp hbeq).trans heq.symm)
  rw [List.filter_append, hold, ← heq]
  exact filter_child h.nodup_children hl

end Placed

/-! ## When the run is complete -/

section Complete

variable {site : Site} {s v : Store} {handles : List (Option Handle)}

/-- No handle is missing if and only if every kind can be created. -/
theorem Placed.isSome_iff {es : List Entity} (h : Placed site s es handles v) :
    (∀ x ∈ handles, x.isSome = true) ↔ ∀ e ∈ es, e.kind ∉ s.failing := by
  constructor
  · intro hall e he hfailing
    rw [← List.map_snd_zip (Nat.le_of_eq h.length.symm)] at he
    obtain ⟨p, hp, rfl⟩ := List.mem_map.mp he
    have hsome := hall p.1 (List.of_mem_zip hp).1
    rw [(h.absent p hp).mpr hfailing] at hsome
    cases hsome
  · intro hall x hx
    rw [← List.map_fst_zip (Nat.le_of_eq h.length)] at hx
    obtain ⟨p, hp, rfl⟩ := List.mem_map.mp hx
    refine Option.isSome_iff_ne_none.mpr ?_
    intro hnone
    exact hall p.2 (List.of_mem_zip hp).2 ((h.absent p hp).mp hnone)

theorem all_done_iff {outcomes : List StepOutcome} {n : Nat} (hlength : handles.length = 7 + n)
    (h : outcomes.map StepOutcome.isDone = handles.map Option.isSome ++
      (held handles n).links.map fun l => l.1.isSome && l.2.isSome) :
    outcomes.all StepOutcome.isDone = true ↔ ∀ x ∈ handles, x.isSome = true := by
  have hall : outcomes.all StepOutcome.isDone = (outcomes.map StepOutcome.isDone).all id := by
    rw [List.all_map]
    rfl
  rw [hall, h, List.all_append, List.all_map, List.all_map, Bool.and_eq_true, List.all_eq_true,
    List.all_eq_true]
  refine ⟨And.left, ?_⟩
  intro hsome
  refine ⟨hsome, ?_⟩
  intro l hl
  obtain ⟨hparent, hchild⟩ := Offered.mem_all_of_mem_links l hl
  rw [all_held hlength] at hparent hchild
  exact Bool.and_eq_true_iff.mpr ⟨hsome _ hparent, hsome _ hchild⟩

theorem creates_done_iff {outcomes : List StepOutcome} {n : Nat} (hlength : handles.length = 7 + n)
    (h : outcomes.map StepOutcome.isDone = handles.map Option.isSome ++
      (held handles n).links.map fun l => l.1.isSome && l.2.isSome) :
    (∀ o ∈ outcomes.take (7 + n), o.isDone = true) ↔ ∀ x ∈ handles, x.isSome = true := by
  have htake : (outcomes.take (7 + n)).map StepOutcome.isDone = handles.map Option.isSome := by
    rw [List.map_take, h, ← hlength, List.take_left' (List.length_map _)]
  have hdone : (∀ b ∈ (outcomes.take (7 + n)).map StepOutcome.isDone, b = true) ↔
      ∀ b ∈ handles.map Option.isSome, b = true := by rw [htake]
  rwa [List.forall_mem_map, List.forall_mem_map] at hdone

section Resolve

variable {t : OfferTemplate} {contract : ContractPayload}

/-- What was given for the places of an offer is of the kinds there. -/
theorem Placed.kinds (h : Placed site s (t.entities contract).all handles v) (i : Nat) (e : Entity)
    (handle : Handle) (he : (t.entities contract).all[i]? = some e)
    (hhandle : handles[i]?.join = some handle) : handle.kind = e.kind :=
  (h.stored_at he hhandle).2

theorem Placed.resolve_eq_some_iff (h : Placed site s (t.entities contract).all handles v)
    {id : Nat} {outcomes : List StepOutcome} {g : OfferGraph} :
    (OfferSlots.ofPlan id t.endpoints.length).resolve ⟨id, handles, outcomes⟩ = some g ↔
      held handles t.endpoints.length = g.handles.map some :=
  OfferSlots.resolve_ofPlan (r := ⟨id, handles, outcomes⟩) h.kinds

/-- An offer can be resolved if and only if no handle is missing. -/
theorem Placed.resolve_iff (h : Placed site s (t.entities contract).all handles v) (id : Nat)
    (outcomes : List StepOutcome) :
    ((OfferSlots.ofPlan id t.endpoints.length).resolve ⟨id, handles, outcomes⟩).isSome = true ↔
      ∀ x ∈ handles, x.isSome = true := by
  constructor
  · intro hsome
    obtain ⟨g, hg⟩ := Option.isSome_iff_exists.mp hsome
    rw [← all_held h.length_handles, h.resolve_eq_some_iff.mp hg, Offered.all_map]
    intro x hx
    obtain ⟨y, -, rfl⟩ := List.mem_map.mp hx
    rfl
  · exact OfferSlots.isSome_resolve (r := ⟨id, handles, outcomes⟩) h.kinds h.length_handles

end Resolve

end Complete

/-! ## The whole run -/

/-- What running an offer's plan comes to: every entity whose kind can be created is new in the
connector, under a URI of its own; the links between those that are there are added at the end; and
nothing else has changed.  The report says which steps were done. -/
structure Provisioned (t : OfferTemplate) (contract : ContractPayload) (plan : Plan)
    (slots : OfferSlots) (s next : Store) (report : Report) (uris : Offered (Option String)) :
    Prop where
  endpoints : uris.endpoints.length = t.endpoints.length
  absent : ∀ p ∈ uris.all.zip (t.entities contract).all, p.1 = none ↔ p.2.kind ∈ s.failing
  fresh : (uris.all.filterMap id ++ s.entities.map Prod.fst).Nodup
  entities : next.entities.Perm (keyed uris.all (t.entities contract).all ++ s.entities)
  rest : next = { s with
    entities := next.entities
    links := s.links ++ paired uris.links
    issued := s.issued + (keyed uris.all (t.entities contract).all).length }
  labels : report.outcomes.map StepOutcome.label = plan.steps.map Step.label
  creates : plan.steps.map Step.creates = (t.entities contract).all.map (fun e => some e.kind)
    ++ List.replicate (6 + t.endpoints.length) none
  complete : report.isComplete = true ↔ ∀ e ∈ (t.entities contract).all, e.kind ∉ s.failing
  resolved : (slots.resolve report).isSome = true ↔
    ∀ o ∈ report.outcomes.take (7 + t.endpoints.length), o.isDone = true
  graph : ∀ g, slots.resolve report = some g → uris = g.handles.map fun h => some h.uri
  parented : report.isComplete = true →
    ∀ p ∈ keyed uris.all (t.entities contract).all, p.2.kind ≠ .catalog →
      ∃ parent, next.links.filter (fun l => l.2 == p.1) = [(parent, p.1)]

section Offer

variable {site : Site} {s v : Store} {t : OfferTemplate} {contract : ContractPayload}
  {handles : List (Option Handle)}

theorem Placed.provisioned (hs : s.Sound site)
    (h : Placed site s (t.entities contract).all handles v) {id : Nat} {plan : Plan}
    {outcomes : List StepOutcome}
    (hlabels : outcomes.map StepOutcome.label = plan.steps.map Step.label)
    (hcreates : plan.steps.map Step.creates = (t.entities contract).all.map (fun e => some e.kind)
      ++ List.replicate (6 + t.endpoints.length) none)
    (hdone : outcomes.map StepOutcome.isDone = handles.map Option.isSome ++
      (held handles t.endpoints.length).links.map fun l => l.1.isSome && l.2.isSome) :
    Provisioned t contract plan (.ofPlan id t.endpoints.length) s
      (v.addPairs (paired (heldUris handles t.endpoints.length).links)) ⟨id, handles, outcomes⟩
      (heldUris handles t.endpoints.length) := by
  have hlength := h.length_handles
  have huris := all_heldUris hlength
  have hcomplete := all_done_iff hlength hdone
  have hlinks : v.links = s.links := by rw [h.rest]
  have hnext : v.addPairs (paired (heldUris handles t.endpoints.length).links)
      = { v with links := v.links ++ paired (heldUris handles t.endpoints.length).links } :=
    Store.addPairs_eq (hlinks ▸ h.nodup_links hs)
  rw [hnext, hlinks]
  exact {
    endpoints := by simp [heldUris, held, Offered.map, Offered.places]
    absent := by
      rw [huris, List.zip_map_left]
      intro p hp
      obtain ⟨q, hq, rfl⟩ := List.mem_map.mp hp
      exact Option.map_eq_none_iff.trans (h.absent q hq)
    fresh := h.fresh_uris
    entities := by
      rw [huris]
      exact h.entities
    rest := by
      rw [huris, h.rest]
    labels := hlabels
    creates := hcreates
    complete := hcomplete.trans h.isSome_iff
    resolved := (h.resolve_iff id outcomes).trans (creates_done_iff hlength hdone).symm
    graph := by
      intro g hg
      rw [heldUris, h.resolve_eq_some_iff.mp hg]
      simp [Offered.map]
    parented := fun hall p hp hkind => h.one_parent hs (hcomplete.mp hall) hp hkind }

end Offer

/-- Against a connector that has come to any state, with any kinds made to fail, through a client at
the same base URL, running the plan of any offer and keeping going provisions the offer as far as
its kinds can be created.  Its contract is the one that it gives, or else one from now on. -/
theorem offer_provisioned {site : Site} (hbase : startsBlank site.baseUrl = false) {s : Store}
    (hs : site.Reachable s) (t : OfferTemplate)
    (hu : site.Unrepeated (s.issued + (7 + t.endpoints.length))) (now : Time.Instant)
    (hnow : t.contract = none → (ContractPayload.fromNow? now).isSome = true) (id : Nat) :
    ∃ contract plan slots report next uris,
      (t.contract = some contract ∨
        t.contract = none ∧ ContractPayload.fromNow? now = some contract) ∧
      Plan.offer id t now = .ok (plan, slots) ∧
      plan.run site.client .keepGoing s = (report, next) ∧
      Provisioned t contract plan slots s next report uris := by
  obtain ⟨contract, hcontract⟩ := t.exists_contractOrNow hnow
  obtain ⟨plan, handles, v, outcomes, hoffer, hplaced, hrun, hdone⟩ :=
    Site.run_offer hbase hs.sound hu hcontract id
  have hlabels := plan.labels_run site.client .keepGoing s
  rw [hrun] at hlabels
  exact ⟨contract, plan, _, _, _, _, (t.contractOrNow?_eq_some_iff contract).mp hcontract, hoffer,
    hrun, hplaced.provisioned hs.sound hlabels (Plan.creates_of_offer hcontract hoffer) hdone⟩

/-- A connector at which artifacts cannot be created, and an offer with a contract of its own. -/
theorem offer_provisioned_without_artifact :
    let site := Site.counting "https://c"
    let s := Store.empty.failCreates .artifact
    let t := { OfferTemplate.standard with contract := some ⟨"a", "b"⟩ }
    startsBlank site.baseUrl = false ∧ site.Reachable s ∧
      site.Unrepeated (s.issued + (7 + t.endpoints.length)) ∧
      ∃ plan slots report next uris, Plan.offer 0 t ⟨0, 0⟩ = .ok (plan, slots) ∧
        plan.run site.client .keepGoing s = (report, next) ∧
        Provisioned t ⟨"a", "b"⟩ plan slots s next report uris ∧ report.isComplete = false := by
  intro site s t
  have hbase : startsBlank site.baseUrl = false := by decide +kernel
  have hreach : site.Reachable s := ⟨[.failCreates .artifact], rfl⟩
  have hfresh : site.Unrepeated (s.issued + (7 + t.endpoints.length)) :=
    Site.counting_unrepeated (by decide +kernel)
  obtain ⟨contract, plan, slots, report, next, uris, hcontract, hoffer, hrun, hprovisioned⟩ :=
    offer_provisioned hbase hreach t hfresh ⟨0, 0⟩ (fun h => nomatch h) 0
  have hgiven : contract = ⟨"a", "b"⟩ := by
    rcases hcontract with hgiven | ⟨hnone, -⟩
    · exact (Option.some.inj hgiven).symm
    · cases hnone
  subst hgiven
  refine ⟨hbase, hreach, hfresh, plan, slots, report, next, uris, hoffer, hrun, hprovisioned, ?_⟩
  refine Bool.eq_false_iff.mpr ?_
  intro hcomplete
  exact hprovisioned.complete.mp hcomplete ⟨.artifact, t.artifact.toJson⟩
    (by simp [OfferTemplate.entities, Offered.all]) (by decide)

end Dataspace
