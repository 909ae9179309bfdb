/-
Running an offer's plan against the in-memory connector.

Keeping going, every create step is attempted, and every link step whose two
entities were stored.  What such a run does is computed in two parts: the creates
place the entities, and the links are added between the handles that the creates
gave.  For an offer both are known in full.
-/
import Dataspace.Proofs.Visits
import Dataspace.Proofs.OfferShape
import Dataspace.Proofs.Placing

namespace Dataspace

open Text

/-! ## The creates of a run -/

section Run

variable {site : Site} {s : Store}

/-- A create step is done if and only if its entity is placed. -/
theorem Site.run_createStep (hbase : startsBlank site.baseUrl = false) (label : String)
    {e : Entity} (hfields : e.fields.isObject = true) (done : List (Option Handle)) (todo : Nat)
    (failed : Bool) (s : Store) :
    ∃ status failed',
      Step.run site.client .keepGoing ⟨label, .create e.kind e.fields done.length⟩
          ⟨done ++ List.replicate (todo + 1) none, failed⟩ s
        = (status, ⟨done ++ (site.placeOne e s).1 :: List.replicate todo none, failed'⟩,
            (site.placeOne e s).2) ∧
      (status == .done) = (site.placeOne e s).1.isSome := by
  by_cases hkind : e.kind ∈ s.failing
  · obtain ⟨error, hcreate⟩ := client_create_failing hkind e.fields
    refine ⟨.failed error, true, ?_, ?_⟩
    · rw [Step.run_create rfl rfl hcreate, placeOne, if_pos hkind]
      rfl
    · rw [placeOne, if_pos hkind]
      rfl
  · have hcreate := client_create hbase hkind hfields
    refine ⟨.done, failed, ?_, ?_⟩
    · rw [Step.run_create rfl rfl hcreate, placeOne, if_neg hkind]
      simp [Progress.settle, Except.map, List.replicate_succ, Progress.withHandle]
    · rw [placeOne, if_neg hkind]
      rfl

/-- The create steps of parts place the parts' entities and write their handles. -/
theorem Site.run_createSteps (hbase : startsBlank site.baseUrl = false) {parts : List OfferPart}
    (hparts : ∀ part ∈ parts, part.entity.fields.isObject = true) (done : List (Option Handle))
    (failed : Bool) (s : Store) :
    ∃ outcomes failed',
      Plan.runSteps site.client .keepGoing (Plan.createSteps done.length parts)
          ⟨done ++ List.replicate parts.length none, failed⟩ s
        = (outcomes, ⟨done ++ (site.place (parts.map OfferPart.entity) s).1, failed'⟩,
            (site.place (parts.map OfferPart.entity) s).2) ∧
      outcomes.map StepOutcome.isDone
        = (site.place (parts.map OfferPart.entity) s).1.map Option.isSome := by
  induction parts generalizing done failed s with
  | nil => exact ⟨[], failed, rfl, rfl⟩
  | cons part rest ih =>
      obtain ⟨hpart, hrest⟩ := List.forall_mem_cons.mp hparts
      obtain ⟨status, failed', hstep, hstatus⟩ :=
        run_createStep hbase ("create " ++ part.label) hpart done rest.length failed s
      rcases hone : site.placeOne part.entity s with ⟨handle, t⟩
      rw [hone] at hstep hstatus
      obtain ⟨outcomes, failed'', hsteps, houtcomes⟩ := ih hrest (done ++ [handle]) failed' t
      rw [List.length_append, List.append_assoc, List.append_assoc] at hsteps
      rw [List.map_cons, place_cons hone]
      exact ⟨⟨"create " ++ part.label, status⟩ :: outcomes, failed'',
        Plan.runSteps_cons hstep hsteps, List.cons_eq_cons.mpr ⟨hstatus, houtcomes⟩⟩

/-! ## The links of a run -/

/-- Both ends of a link, where there are handles, can be linked. -/
def Site.Linkable (site : Site) (s : Store) (p : Progress) (l : Nat × Nat) : Prop :=
  ∀ parent child, p.handle? l.1 = some parent → p.handle? l.2 = some child →
    site.Stored s parent ∧ site.Stored s child ∧ parent.kind.accepts child.kind = true

theorem Site.Linkable.addPairs {p : Progress} {l : Nat × Nat} (h : site.Linkable s p l)
    (pairs : List (String × String)) : site.Linkable (s.addPairs pairs) p l := by
  intro parent child hparent hchild
  obtain ⟨hparent', hchild', haccepts⟩ := h parent child hparent hchild
  exact ⟨Store.stored_addPairs hparent' pairs, Store.stored_addPairs hchild' pairs, haccepts⟩

/-- A link step is done if and only if both ends have handles, and otherwise passed over. -/
theorem Site.run_linkStep (hbase : startsBlank site.baseUrl = false) {step : Step}
    {l : Nat × Nat} (haction : step.action = .link l.1 l.2) {p : Progress}
    (hl : site.Linkable s p l) :
    ∃ status, step.run site.client .keepGoing p s
        = (status, p, s.addPairs (paired [((p.handle? l.1).map Handle.uri,
            (p.handle? l.2).map Handle.uri)])) ∧
      (status == .done) = ((p.handle? l.1).isSome && (p.handle? l.2).isSome) := by
  have hskip : step.isSkipped .keepGoing p
      = ! ((p.handle? l.1).isSome && (p.handle? l.2).isSome) := by
    simp [Step.isSkipped, Step.reads, haction]
  cases hparent : p.handle? l.1 with
  | none =>
      rw [hparent] at hskip
      exact ⟨.skipped, by rw [Step.run, hskip]; rfl, rfl⟩
  | some parent =>
      cases hchild : p.handle? l.2 with
      | none =>
          rw [hparent, hchild] at hskip
          exact ⟨.skipped, by rw [Step.run, hskip]; rfl, rfl⟩
      | some child =>
          rw [hparent, hchild] at hskip
          obtain ⟨hparent', hchild', haccepts⟩ := hl parent child hparent hchild
          refine ⟨.done, ?_, rfl⟩
          rw [Step.run_link hskip haction hparent hchild
            (client_link hbase hparent' hchild' haccepts)]
          rfl

theorem Site.run_linkSteps (hbase : startsBlank site.baseUrl = false) {p : Progress}
    {pairs : List (Nat × Nat)} {links : List Step}
    (hactions : links.map Step.action = pairs.map fun l => .link l.1 l.2) (s : Store)
    (hpairs : ∀ l ∈ pairs, site.Linkable s p l) :
    ∃ outcomes, Plan.runSteps site.client .keepGoing links p s
        = (outcomes, p, s.addPairs (paired (pairs.map fun l =>
            ((p.handle? l.1).map Handle.uri, (p.handle? l.2).map Handle.uri)))) ∧
      outcomes.map StepOutcome.isDone
        = pairs.map fun l => (p.handle? l.1).isSome && (p.handle? l.2).isSome := by
  induction pairs generalizing links s with
  | nil =>
      rw [List.map_eq_nil_iff.mp hactions]
      exact ⟨[], rfl, rfl⟩
  | cons l rest ih =>
      obtain ⟨step, steps, rfl, haction, hsteps⟩ := List.map_eq_cons_iff.mp hactions
      obtain ⟨hl, hrest⟩ := List.forall_mem_cons.mp hpairs
      obtain ⟨status, hrun, hstatus⟩ := run_linkStep hbase haction hl
      obtain ⟨outcomes, hruns, houtcomes⟩ := ih hsteps _ fun m hm => (hrest m hm).addPairs _
      rw [Store.addPairs_append, ← paired_append] at hruns
      exact ⟨⟨step.label, status⟩ :: outcomes, Plan.runSteps_cons hrun hruns,
        List.cons_eq_cons.mpr ⟨hstatus, houtcomes⟩⟩

end Run

/-! ## The run of an offer -/

/-- What the slots of an offer with so many endpoints hold. -/
def held (handles : List (Option Handle)) (endpoints : Nat) : Offered (Option Handle) :=
  (Offered.places endpoints).map fun i => handles[i]?.join

/-- The URIs of what the slots hold. -/
def heldUris (handles : List (Option Handle)) (endpoints : Nat) : Offered (Option String) :=
  (held handles endpoints).map (Option.map Handle.uri)

theorem all_held {handles : List (Option Handle)} {n : Nat} (h : handles.length = 7 + n) :
    (held handles n).all = handles := by
  rw [held, Offered.all_map, Offered.all_places, ← h]
  refine List.ext_getElem? ?_
  intro i
  by_cases hi : i < handles.length
  · simp [hi]
  · simp [hi]

theorem all_heldUris {handles : List (Option Handle)} {n : Nat} (h : handles.length = 7 + n) :
    (heldUris handles n).all = handles.map (Option.map Handle.uri) := by
  rw [heldUris, Offered.all_map, all_held h]

/-- An offer of which every slot holds a handle of its kind can be resolved. -/
theorem OfferSlots.isSome_resolve {t : OfferTemplate} {contract : ContractPayload} {r : Report}
    (hkinds : ∀ (i : Nat) (e : Entity) (h : Handle),
      (t.entities contract).all[i]? = some e → r.handles[i]?.join = some h → h.kind = e.kind)
    (hlength : r.handles.length = 7 + t.endpoints.length)
    (hall : ∀ x ∈ r.handles, x.isSome = true) :
    ((OfferSlots.ofPlan r.plan t.endpoints.length).resolve r).isSome = true := by
  have hheld : ∀ x ∈ (held r.handles t.endpoints.length).all, x.isSome = true :=
    (all_held hlength).symm ▸ hall
  obtain ⟨w, hw⟩ := Offered.exists_of_isSome hheld
  exact Option.isSome_iff_exists.mpr ⟨⟨w.catalog, w.resource, w.representation, w.app, w.endpoints,
    w.artifact, w.contract, w.rule⟩, (resolve_ofPlan hkinds).mpr hw⟩

section Offer

variable {site : Site} {s v : Store} {t : OfferTemplate} {contract : ContractPayload}
  {handles : List (Option Handle)}

/-- What was given for a place is the handle of the entity there. -/
theorem Placed.stored_at {es : List Entity} (h : Placed site s es handles v) {i : Nat} {e : Entity}
    {handle : Handle} (he : es[i]? = some e) (hhandle : handles[i]?.join = some handle) :
    site.Stored v handle ∧ handle.kind = e.kind := by
  have hzip : (handles.zip es)[i]? = some (some handle, e) :=
    List.getElem?_zip_eq_some.mpr ⟨Option.join_eq_some_iff.mp hhandle, he⟩
  exact h.stored (List.mem_of_getElem? hzip) rfl

/-- At linked places of an offer are entities whose kinds go together, and what was given
for them are their handles. -/
theorem Placed.linkable (h : Placed site s (t.entities contract).all handles v) (failed : Bool) :
    ∀ l ∈ (Offered.places t.endpoints.length).links, site.Linkable v ⟨handles, failed⟩ l := by
  intro l hl parent child hparent hchild
  rw [← t.length_entities contract] at hl
  obtain ⟨e, he, heparent, hechild⟩ := Offered.getElem?_of_mem_links hl
  obtain ⟨hparent', hparentKind⟩ := h.stored_at heparent hparent
  obtain ⟨hchild', hchildKind⟩ := h.stored_at hechild hchild
  refine ⟨hparent', hchild', ?_⟩
  rw [hparentKind, hchildKind]
  exact t.accepts_of_mem_links contract e he

/-- The plan of an offer is run: the entities are placed, and then the links between those
that are there are added. -/
theorem Site.run_offer (hbase : startsBlank site.baseUrl = false) (hs : s.Sound site)
    (hu : site.Unrepeated (s.issued + (7 + t.endpoints.length))) {now : Time.Instant}
    (hcontract : t.contractOrNow? now = some contract) (id : Nat) :
    ∃ plan handles v outcomes, Plan.offer id t now = .ok (plan, .ofPlan id t.endpoints.length) ∧
      Placed site s (t.entities contract).all handles v ∧
      plan.run site.client .keepGoing s = (⟨id, handles, outcomes⟩,
        v.addPairs (paired (heldUris handles t.endpoints.length).links)) ∧
      outcomes.map StepOutcome.isDone = handles.map Option.isSome ++
        (held handles t.endpoints.length).links.map (fun l => l.1.isSome && l.2.isSome) := by
  obtain ⟨plan, links, hoffer, hid, hslots, hsteps, hactions⟩ := Plan.offer_eq hcontract id
  have hparts : ∀ part ∈ t.parts contract, part.entity.fields.isObject = true := by
    intro part hpart
    refine t.isObject_of_mem contract _ ?_
    rw [← t.entities_of_parts]
    exact List.mem_map_of_mem hpart
  have hplaced := placed_place hs (t.length_all_entities contract ▸ hu) (t.isObject_of_mem contract)
  obtain ⟨created, failed, hcreates, hcreated⟩ := run_createSteps hbase hparts [] false s
  rw [t.entities_of_parts] at hcreates hcreated
  rcases hplace : site.place (t.entities contract).all s with ⟨handles, v⟩
  rw [hplace] at hplaced hcreates hcreated
  obtain ⟨linked, hlinks, hlinked⟩ := run_linkSteps hbase hactions v (hplaced.linkable failed)
  refine ⟨plan, handles, v, created ++ linked, hoffer, hplaced, ?_, ?_⟩
  · have hstart : Progress.start plan.slots.length
        = ⟨[] ++ List.replicate (t.parts contract).length none, false⟩ := by
      rw [hslots, t.length_parts contract]
      rfl
    have hsteps' : plan.steps
        = Plan.createSteps ([] : List (Option Handle)).length (t.parts contract) ++ links := hsteps
    have hrun := Plan.runSteps_append hcreates hlinks
    rw [← hstart, ← hsteps'] at hrun
    rw [Plan.run_of_runSteps hrun, hid, heldUris, held, Offered.links_map, Offered.links_map,
      List.map_map]
    rfl
  · rw [List.map_append, hcreated, hlinked, held, Offered.links_map, List.map_map]
    rfl

end Offer

end Dataspace
