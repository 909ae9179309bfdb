/-
Plans while they are being built.

Calls append a create step or a link step, in any order and as often as one likes,
with slots that may come from anywhere; a link that does not join two slots of the
plan is refused.  The slots and the steps stay in step with each other through all
of it, and a run never asks its table of handles for a slot that is not there.
-/
import Dataspace.Proofs.Turns

namespace Dataspace

/-- A call on a plan that is being built. -/
inductive PlanCall where
  | create (label : String) (kind : EntityKind) (fields : Json)
  | link (parent child : Slot)

namespace Plan

/-! ## Calls -/

/-- What a call gives, and the plan after it: a slot for a create, nothing for a link. -/
def perform (p : Plan) : PlanCall → Except PlanFault (Option Slot) × Plan
  | .create label kind fields => (.ok (some p.nextSlot), p.create label kind fields)
  | .link parent child =>
    match p.link parent child with
    | .ok q => (.ok none, q)
    | .error fault => (.error fault, p)

/-- The plan after calls, one after the other. -/
def performAll (p : Plan) (calls : List PlanCall) : Plan :=
  calls.foldl (fun p call => (p.perform call).2) p

theorem Built.perform {p : Plan} (h : p.Built) (call : PlanCall) : (p.perform call).2.Built := by
  cases call with
  | create label kind fields => exact .create label kind fields h
  | link parent child =>
      cases hlink : p.link parent child with
      | ok q => simpa only [Plan.perform, hlink] using Built.link h hlink
      | error fault => simpa only [Plan.perform, hlink] using h

theorem Built.performAll {p : Plan} (h : p.Built) (calls : List PlanCall) :
    (p.performAll calls).Built := by
  induction calls generalizing p with
  | nil => exact h
  | cons call rest ih => exact ih (h.perform call)

/-! ## Refused links -/

/-- The fault is one that the two slots have in this plan. -/
def Refuses (p : Plan) (parent child : Slot) : PlanFault → Prop
  | .foreignSlot => parent.plan ≠ p.id ∨ child.plan ≠ p.id
  | .unknownSlot index => (index = parent.index ∨ index = child.index) ∧ p.slots.length ≤ index
  | .notAccepted childKind parentKind =>
      (p.slots[parent.index]?).map SlotInfo.kind = some parentKind ∧
      (p.slots[child.index]?).map SlotInfo.kind = some childKind ∧
      parentKind.accepts childKind = false
  | _ => False

theorem slotInfo_error {p : Plan} {slot : Slot} {fault : PlanFault}
    (h : p.slotInfo slot = .error fault) :
    fault = .foreignSlot ∧ slot.plan ≠ p.id ∨
      fault = .unknownSlot slot.index ∧ p.slots.length ≤ slot.index := by
  unfold slotInfo at h
  split at h
  · split at h
    · cases h
    · rename_i hnone
      cases h
      exact Or.inr ⟨rfl, List.getElem?_eq_none_iff.mp hnone⟩
  · rename_i hplan
    cases h
    exact Or.inl ⟨rfl, hplan⟩

/-- A link that is refused joins no two slots of the plan, and the fault says why. -/
theorem link_error {p : Plan} {parent child : Slot} {fault : PlanFault}
    (h : p.link parent child = .error fault) : p.Refuses parent child fault := by
  unfold link at h
  cases hparent : p.slotInfo parent with
  | error e =>
      simp only [hparent, bind, Except.bind, Except.error.injEq] at h
      subst h
      rcases slotInfo_error hparent with ⟨rfl, hplan⟩ | ⟨rfl, hindex⟩
      · exact Or.inl hplan
      · exact ⟨Or.inl rfl, hindex⟩
  | ok parentInfo =>
      cases hchild : p.slotInfo child with
      | error e =>
          simp only [hparent, hchild, bind, Except.bind, Except.error.injEq] at h
          subst h
          rcases slotInfo_error hchild with ⟨rfl, hplan⟩ | ⟨rfl, hindex⟩
          · exact Or.inr hplan
          · exact ⟨Or.inr rfl, hindex⟩
      | ok childInfo =>
          simp only [hparent, hchild, bind, Except.bind] at h
          split at h
          · cases h
          · rename_i haccepts
            cases h
            exact ⟨congrArg (Option.map SlotInfo.kind) (slotInfo_ok hparent).2,
              congrArg (Option.map SlotInfo.kind) (slotInfo_ok hchild).2,
              Bool.eq_false_iff.mpr haccepts⟩

theorem not_joins_of_refuses {p : Plan} {parent child : Slot} {fault : PlanFault}
    (h : p.Refuses parent child fault) : ¬ p.Joins parent child := by
  rintro ⟨parentInfo, childInfo, hplan, hplan', hparent, hchild, haccepts⟩
  have hparentIndex := (List.getElem?_eq_some_iff.mp hparent).1
  have hchildIndex := (List.getElem?_eq_some_iff.mp hchild).1
  cases fault with
  | foreignSlot => exact h.elim (absurd hplan) (absurd hplan')
  | unknownSlot index =>
      obtain ⟨rfl | rfl, hindex⟩ := h
      · exact absurd hparentIndex (Nat.not_lt.mpr hindex)
      · exact absurd hchildIndex (Nat.not_lt.mpr hindex)
  | notAccepted childKind parentKind =>
      obtain ⟨hparentKind, hchildKind, hrefused⟩ := h
      simp only [hparent, hchild, Option.map_some, Option.some.injEq] at hparentKind hchildKind
      rw [hparentKind, hchildKind, hrefused] at haccepts
      cases haccepts
  | inputsMissing _ | incomplete => exact h

/-! ## Slots and steps -/

/-- What holds of a plan at any time: its create steps write its slots one after the other, each of
the slot's kind, and a link step reads two slots that steps before it write and whose kinds go
together. -/
structure WellFormed (p : Plan) : Prop where
  creations : p.steps.filterMap Step.creation = (p.slots.map SlotInfo.kind).zipIdx
  links : ∀ before step after, p.steps = before ++ step :: after →
    ∀ parent child, step.action = .link parent child →
      (∃ u ∈ before, u.writes = some parent) ∧ (∃ u ∈ before, u.writes = some child) ∧
      ∃ parentInfo childInfo, p.slots[parent]? = some parentInfo ∧
        p.slots[child]? = some childInfo ∧ parentInfo.kind.accepts childInfo.kind = true

theorem Built.wellFormed {p : Plan} (h : p.Built) : p.WellFormed := by
  obtain ⟨hkinds, hordered⟩ := h.ordered
  constructor
  · rw [Step.creation_of_ordered hordered, hkinds]
    rfl
  · intro before step after hsteps parent child haction
    rw [hsteps] at hordered hkinds
    obtain ⟨hbefore, hfits, -⟩ := hordered.split
    rw [Step.Fits, haction, List.nil_append] at hfits
    obtain ⟨parentKind, childKind, hparent, hchild, haccepts⟩ := hfits
    have hinfo : ∀ {slot : Nat} {kind : EntityKind}, (Step.kinds before)[slot]? = some kind →
        ∃ info : SlotInfo, p.slots[slot]? = some info ∧ info.kind = kind := by
      intro slot kind hslot
      have hall : (p.slots.map SlotInfo.kind)[slot]? = some kind := by
        rw [← hkinds, Step.kinds_append,
          List.getElem?_append_left (List.getElem?_eq_some_iff.mp hslot).1]
        exact hslot
      rw [List.getElem?_map] at hall
      exact Option.map_eq_some_iff.mp hall
    obtain ⟨parentInfo, hparent', rfl⟩ := hinfo hparent
    obtain ⟨childInfo, hchild', rfl⟩ := hinfo hchild
    exact ⟨hbefore.exists_writes (List.getElem?_eq_some_iff.mp hparent).1,
      hbefore.exists_writes (List.getElem?_eq_some_iff.mp hchild).1,
      parentInfo, childInfo, hparent', hchild', haccepts⟩

theorem WellFormed.length_slots {p : Plan} (h : p.WellFormed) :
    (p.steps.filterMap Step.creation).length = p.slots.length := by
  rw [h.creations, List.length_zipIdx, List.length_map]

/-- A create step has its slot's kind. -/
theorem WellFormed.kind_of_creation {p : Plan} (h : p.WellFormed) {step : Step}
    (hstep : step ∈ p.steps) {kind : EntityKind} {slot : Nat}
    (hcreation : step.creation = some (kind, slot)) :
    ∃ info, p.slots[slot]? = some info ∧ info.kind = kind := by
  have hmem : (kind, slot) ∈ p.steps.filterMap Step.creation :=
    List.mem_filterMap.mpr ⟨step, hstep, hcreation⟩
  rw [h.creations, List.mem_zipIdx_iff_getElem?, List.getElem?_map] at hmem
  exact Option.map_eq_some_iff.mp hmem

/-- Steps read and write slots of the plan only. -/
theorem WellFormed.slot_lt {p : Plan} (h : p.WellFormed) {step : Step} (hstep : step ∈ p.steps)
    {slot : Nat} (hslot : slot ∈ step.reads ++ step.writes.toList) : slot < p.slots.length := by
  cases haction : step.action with
  | create kind fields output =>
      have hcreation : step.creation = some (kind, output) := by rw [Step.creation, haction]
      obtain ⟨info, hinfo, -⟩ := h.kind_of_creation hstep hcreation
      have heq : slot = output := by simpa [Step.reads, Step.writes, haction] using hslot
      exact heq ▸ (List.getElem?_eq_some_iff.mp hinfo).1
  | link parent child =>
      obtain ⟨before, after, hsteps⟩ := List.append_of_mem hstep
      obtain ⟨-, -, parentInfo, childInfo, hparent, hchild, -⟩ :=
        h.links before step after hsteps parent child haction
      have heq : slot = parent ∨ slot = child := by
        simpa [Step.reads, Step.writes, haction] using hslot
      rcases heq with rfl | rfl
      · exact (List.getElem?_eq_some_iff.mp hparent).1
      · exact (List.getElem?_eq_some_iff.mp hchild).1

/-! ## The table of a run -/

section Table

variable {σ : Type} (c : Client σ) (policy : FailurePolicy)

theorem length_settle (p : Progress) {result : Except ConnectorError Progress}
    (h : ∀ q, result = .ok q → q.handles.length = p.handles.length) :
    (p.settle result).2.handles.length = p.handles.length := by
  cases result with
  | ok q => exact h q rfl
  | error e => rfl

/-- Whatever a step does, the table keeps its size. -/
theorem length_handles_run (step : Step) (p : Progress) (s : σ) :
    (step.run c policy p s).2.1.handles.length = p.handles.length := by
  cases hskip : step.isSkipped policy p with
  | true => simp [Step.run, hskip]
  | false =>
      cases haction : step.action with
      | create kind fields output =>
          rcases hcreate : c.create kind fields s with ⟨result, t⟩
          rw [Step.run_create hskip haction hcreate]
          refine length_settle p ?_
          intro q hq
          cases result with
          | ok handle =>
              cases hq
              exact p.length_withHandle _ _
          | error e => cases hq
      | link parent child =>
          cases hparent : p.handle? parent with
          | none => simp [Step.run, hskip, Step.attempt, haction, hparent]; rfl
          | some parentHandle =>
              cases hchild : p.handle? child with
              | none => simp [Step.run, hskip, Step.attempt, haction, hparent, hchild]; rfl
              | some childHandle =>
                  rcases hlink : c.link parentHandle childHandle s with ⟨result, t⟩
                  rw [Step.run_link hskip haction hparent hchild hlink]
                  refine length_settle p ?_
                  intro q hq
                  cases result with
                  | ok _ => cases hq; rfl
                  | error e => cases hq

theorem length_handles_runSteps (steps : List Step) (p : Progress) (s : σ) :
    (runSteps c policy steps p s).2.1.handles.length = p.handles.length := by
  induction steps generalizing p s with
  | nil => rfl
  | cons step rest ih => exact (ih _ _).trans (length_handles_run c policy step p s)

end Table

end Plan

/-! ## Every history of calls -/

/-- Whatever calls are made on a new plan, with slots from wherever: the plan is well-formed and has
a slot for each of its create steps.  One more link is taken in if it joins two slots of the plan;
otherwise it is refused for a reason that the slots have, and the plan is as it was.  A run that has
come to any step has a place in its table for every slot that the step reads or writes. -/
theorem performAll_new_wellFormed (id : Nat) (calls : List PlanCall) :
    let plan := (Plan.new id).performAll calls
    plan.WellFormed ∧ (plan.steps.filterMap Step.creation).length = plan.slots.length ∧
    (∀ parent child,
      plan.Joins parent child ∧ (∃ q, plan.perform (.link parent child) = (.ok none, q)) ∨
      ¬ plan.Joins parent child ∧ ∃ fault, plan.Refuses parent child fault ∧
        plan.perform (.link parent child) = (.error fault, plan)) ∧
    ∀ {σ : Type} (c : Client σ) (policy : FailurePolicy) (s : σ) (before : List Step) (step : Step)
      (after : List Step), plan.steps = before ++ step :: after →
      ∀ slot ∈ step.reads ++ step.writes.toList,
        slot < (Plan.runSteps c policy before (.start plan.slots.length) s).2.1.handles.length := by
  intro plan
  have hb : plan.Built := Plan.Built.performAll (.new id) calls
  have hwf := hb.wellFormed
  refine ⟨hwf, hwf.length_slots, ?_, ?_⟩
  · intro parent child
    cases hlink : plan.link parent child with
    | ok q =>
        exact Or.inl ⟨(Plan.link_ok hlink).1, q, by simp only [Plan.perform, hlink]⟩
    | error fault =>
        have hrefuses := Plan.link_error hlink
        exact Or.inr ⟨Plan.not_joins_of_refuses hrefuses, fault, hrefuses,
          by simp only [Plan.perform, hlink]⟩
  · intro σ c policy s before step after hsteps slot hslot
    have hstep : step ∈ plan.steps := hsteps ▸ List.mem_append_right _ List.mem_cons_self
    rw [Plan.length_handles_runSteps, Progress.start, List.length_replicate]
    exact hwf.slot_lt hstep hslot

end Dataspace
