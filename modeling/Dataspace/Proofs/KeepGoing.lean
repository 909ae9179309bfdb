/-
Runs that keep going.

When keeping going, every create step is attempted, and a link step is passed over
if and only if a slot that it reads holds no handle.  A slot of an earlier create
step holds none if and only if that step failed.  So it is the failed creates alone
that decide which steps are passed over: what a link comes to has no part in it.
-/
import Dataspace.Proofs.Building
import Dataspace.Proofs.Creating
import Dataspace.Proofs.FailFast

namespace Dataspace

/-! ## What has been created before a step -/

namespace Turns

variable {base : String} {plan : Plan} {q : Progress} {visits : List Visit}

/-- A visited create step is done or failed. -/
theorem done_or_failed {p : Progress} (h : Turns base .keepGoing p visits q) {v : Visit}
    (hv : v ∈ visits) {slot : Nat} (hwrites : v.step.writes = some slot) :
    v.status = .done ∨ v.Failed := by
  obtain ⟨before, after, rfl⟩ := List.append_of_mem hv
  obtain ⟨m, -, hafter⟩ := h.split
  have hreads : v.step.reads = [] := by
    unfold Step.writes at hwrites
    unfold Step.reads
    split at hwrites
    · rfl
    · cases hwrites
  cases hafter with
  | cons hturn _ =>
      cases hstatus : v.status with
      | done => exact Or.inl rfl
      | failed e => exact Or.inr ⟨e, hstatus⟩
      | skipped =>
          have hskip := hturn.skipped_iff.mp hstatus
          simp [Step.isSkipped, hreads] at hskip

section Before

variable {before after : List Visit} {v : Visit}

/-- The slots that a step reads were written by steps visited before it. -/
theorem exists_writes (hb : plan.Built)
    (hsteps : (before ++ v :: after).map Visit.step = plan.steps) {slot : Nat}
    (hslot : slot ∈ v.step.reads) :
    ∃ u ∈ before, u.step.writes = some slot := by
  have hplan : plan.steps = before.map Visit.step ++ v.step :: after.map Visit.step := by
    rw [← hsteps, List.map_append, List.map_cons]
  cases haction : v.step.action with
  | create kind fields output => simp [Step.reads, haction] at hslot
  | link parent child =>
      obtain ⟨hparent, hchild, -⟩ :=
        hb.wellFormed.links _ _ _ hplan parent child haction
      have heq : slot = parent ∨ slot = child := by simpa [Step.reads, haction] using hslot
      rcases heq with rfl | rfl
      · obtain ⟨step, hstep, hwrites⟩ := hparent
        obtain ⟨u, hu, rfl⟩ := List.mem_map.mp hstep
        exact ⟨u, hu, hwrites⟩
      · obtain ⟨step, hstep, hwrites⟩ := hchild
        obtain ⟨u, hu, rfl⟩ := List.mem_map.mp hstep
        exact ⟨u, hu, hwrites⟩

/-- A step is attempted if and only if the creates of all slots that it reads are done. -/
theorem attempted_iff (hb : plan.Built)
    (hsteps : (before ++ v :: after).map Visit.step = plan.steps)
    (h : Turns base .keepGoing (.start plan.slots.length) (before ++ v :: after) q) :
    v.status ≠ .skipped ↔
      ∀ slot ∈ v.step.reads, ∃ u ∈ before, u.step.writes = some slot ∧ u.status = .done := by
  obtain ⟨m, hbefore, hafter⟩ := h.split
  have hwritten : ∀ u ∈ before, ∀ slot, u.step.writes = some slot → slot < plan.slots.length :=
    fun u hu slot hslot => hb.writes_lt hsteps (List.mem_append_left _ hu) hslot
  cases hafter with
  | cons hturn _ =>
      rw [Ne, hturn.skipped_iff, Step.isSkipped, Bool.not_eq_true, Bool.not_eq_false',
        List.all_eq_true]
      exact forall_congr' fun slot => imp_congr_right fun _ =>
        hbefore.isSome_handle?_iff hwritten slot

/-- A step is passed over if and only if the create of a slot that it reads failed. -/
theorem skipped_iff (hb : plan.Built) (hsteps : (before ++ v :: after).map Visit.step = plan.steps)
    (h : Turns base .keepGoing (.start plan.slots.length) (before ++ v :: after) q) :
    v.status = .skipped ↔
      ∃ slot ∈ v.step.reads, ∃ u ∈ before, u.step.writes = some slot ∧ u.Failed := by
  have hattempted := attempted_iff hb hsteps h
  constructor
  · intro hskipped
    apply Classical.byContradiction
    intro hnone
    refine hattempted.mpr ?_ hskipped
    intro slot hslot
    obtain ⟨u, hu, hwrites⟩ := exists_writes hb hsteps hslot
    rcases h.done_or_failed (List.mem_append_left _ hu) hwrites with hdone | hfailed
    · exact ⟨u, hu, hwrites, hdone⟩
    · exact absurd ⟨slot, hslot, u, hu, hwrites, hfailed⟩ hnone
  · rintro ⟨slot, hslot, u, hu, hwrites, e, he⟩
    apply Classical.byContradiction
    intro hskipped
    obtain ⟨w, hw, hwwrites, hdone⟩ := hattempted.mp hskipped slot hslot
    have heq : u = w := hb.eq_of_writes hsteps (List.mem_append_left _ hu)
      (List.mem_append_left _ hw) hwrites hwwrites
    rw [heq, hdone] at he
    cases he

end Before

/-- Up to the first failure every step is done. -/
theorem done_or_failsAt (hb : plan.Built) (hsteps : visits.map Visit.step = plan.steps)
    (h : Turns base .keepGoing (.start plan.slots.length) visits q) :
    (∀ v ∈ visits, v.status = .done) ∨ ∃ e, FailsAt visits e := by
  refine done_or_failsAt_of_cause ?_
  rintro before v after rfl hskipped
  obtain ⟨-, -, u, hu, -, hfailed⟩ := (skipped_iff hb hsteps h).mp hskipped
  exact ⟨u, hu, hfailed⟩

end Turns

/-! ## The handles in requests -/

/-- The handle was obtained for a slot before: a visited create step was given it, and it is of the
kind that the slot was declared with.  Neither its URI nor its id is empty. -/
structure Plan.Obtained (plan : Plan) (base : String) (before : List Visit) (slot : Nat)
    (h : Handle) : Prop where
  given : ∃ u ∈ before, u.Gives base slot h
  kind : (plan.slots[slot]?).map SlotInfo.kind = some h.kind
  uri : h.uri ≠ ""
  id : h.id ≠ ""

/-- What a visit of the plan gave was obtained for the slot. -/
theorem Visit.Gives.obtained {plan : Plan} {base : String} {before : List Visit} {u : Visit}
    {slot : Nat} {h : Handle} (hgives : u.Gives base slot h) (hb : plan.Built) (hu : u ∈ before)
    (hstep : u.step ∈ plan.steps) : plan.Obtained base before slot h := by
  have hgiven := hgives
  obtain ⟨kind, fields, answer, haction, -, -, hcreated⟩ := hgives
  have hcreation : u.step.creation = some (kind, slot) := by rw [Step.creation, haction]
  obtain ⟨info, hinfo, hkind⟩ := hb.wellFormed.kind_of_creation hstep hcreation
  obtain ⟨huri, hid⟩ := Client.filled_of_createdHandle hcreated
  refine ⟨⟨u, hu, hgiven⟩, ?_, huri, hid⟩
  rw [hinfo, Option.map_some, hkind, Client.kind_of_createdHandle hcreated]

/-! ## Every run -/

/-- A run of any plan that was built, against any machine that answers.  Every step is visited in
order and has its outcome under its label.  A step is passed over if and only if the create step of
a slot that it reads failed, and attempted if and only if the create steps of all slots that it
reads are done; so create steps are always attempted, and no link causes a step to be passed over.
The attempted steps made one call each, in their order: a create step posts its fields to the
collection of its kind, a link step posts its child's URI to its parent's collection, both from
handles that this run obtained for the slots.  Such a step is done if and only if the answer to its
call is a success, and to a create step one with a handle of its kind.  The result is the report, or
else the error of the first step that failed. -/
theorem run_keepGoing {σ : Type} {plan : Plan} (hb : plan.Built) (c : Client σ) (s : σ) :
    ∃ visits report t,
      plan.run c .keepGoing s = (report, t) ∧
      plan.run c.logging .keepGoing (s, []) = (report, t, visits.filterMap Visit.call) ∧
      visits.map Visit.step = plan.steps ∧
      report.outcomes = visits.map Visit.outcome ∧
      (∀ before v after, visits = before ++ v :: after →
        (v.status = .skipped ↔
          ∃ slot ∈ v.step.reads, ∃ u ∈ before, u.step.writes = some slot ∧ u.Failed) ∧
        (v.status ≠ .skipped ↔
          ∀ slot ∈ v.step.reads, ∃ u ∈ before, u.step.writes = some slot ∧ u.status = .done)) ∧
      (∀ v ∈ visits, v.call = none ↔ v.status = .skipped) ∧
      (∀ v ∈ visits, ∀ call, v.call = some call → (v.status = .done ↔ v.step.DoneBy call.2)) ∧
      (∀ before v after call, visits = before ++ v :: after → v.call = some call →
        (∀ kind fields output, v.step.action = .create kind fields output →
          call.1 = .post (c.baseUrl ++ "/api/" ++ kind.collection) (some fields)) ∧
        (∀ parent child, v.step.action = .link parent child → ∃ p q : Handle,
          call.1 = .post (p.uri ++ "/" ++ q.kind.collection) (some (.texts [q.uri])) ∧
          plan.Obtained c.baseUrl before parent p ∧ plan.Obtained c.baseUrl before child q)) ∧
      (∀ slot, (report.handle? slot).isSome = true ↔ slot.plan = plan.id ∧
        ∃ v ∈ visits, v.step.writes = some slot.index ∧ v.status = .done) ∧
      plan.steps.filterMap Step.writes = List.range plan.slots.length ∧
      ((∀ v ∈ visits, v.status = .done) ∧ report.result = .ok report ∨
        ∃ e, FailsAt visits e ∧ report.result = .error e) := by
  obtain ⟨visits, q, t, hsteps, hturns, hrun, hlogged⟩ := hb.run_turns c .keepGoing s
  refine ⟨visits, _, t, hrun, hlogged, hsteps, rfl, ?_, hturns.call_eq_none_iff, hturns.done_iff, ?_,
    hb.isSome_handle?_iff hsteps hturns, hb.writes, ?_⟩
  · rintro before v after rfl
    exact ⟨Turns.skipped_iff hb hsteps hturns, Turns.attempted_iff hb hsteps hturns⟩
  · rintro before v after call rfl hcall
    have hstep : ∀ u ∈ before, u.step ∈ plan.steps := fun u hu =>
      hsteps ▸ List.mem_map_of_mem (List.mem_append_left _ hu)
    refine ⟨fun _ _ _ haction => hturns.request_create haction hcall, ?_⟩
    intro parent child haction
    obtain ⟨p, r, hrequest, ⟨u, hu, hparent⟩, w, hw, hchild⟩ := hturns.request_link haction hcall
    exact ⟨p, r, hrequest, hparent.obtained hb hu (hstep u hu), hchild.obtained hb hw (hstep w hw)⟩
  · rcases hturns.done_or_failsAt hb hsteps with hdone | ⟨e, hfails⟩
    · exact Or.inl ⟨hdone, Report.result_of_done rfl hdone⟩
    · exact Or.inr ⟨e, hfails, Report.result_of_failsAt rfl hfails⟩

/-- Of three entities the second is refused; the link to it is passed over, that to the third is
made. -/
theorem run_keepGoing_refused :
    let plan := (Plan.new 0).performAll
      [.create "r" .resource .null, .create "c" .contract .null, .create "p" .representation .null,
       .link ⟨0, 0⟩ ⟨0, 1⟩, .link ⟨0, 0⟩ ⟨0, 2⟩]
    let c : Client _ := ⟨"https://c", .scripted⟩
    let answers := [.ok ⟨201, some "https://c/api/resources/1", []⟩, .ok ⟨500, none, []⟩,
      .ok ⟨201, some "https://c/api/representations/1", []⟩, .ok ⟨200, none, []⟩]
    plan.Built ∧ ∃ visits report t, plan.run c .keepGoing answers = (report, t) ∧
      visits.map Visit.step = plan.steps ∧ report.outcomes = visits.map Visit.outcome ∧
      visits.map (fun v => v.status == .skipped) = [false, false, false, true, false] ∧
      ∃ e, FailsAt visits e ∧ report.result = .error e := by
  intro plan c answers
  have hb : plan.Built := Plan.Built.performAll (.new 0) _
  obtain ⟨visits, report, t, hrun, -, hsteps, houtcomes, -, -, -, -, -, -, hresult⟩ :=
    run_keepGoing hb c answers
  have hreport : report = (plan.run c .keepGoing answers).1 := by rw [hrun]
  refine ⟨hb, visits, report, t, hrun, hsteps, houtcomes, ?_, ?_⟩
  · have hskipped : report.outcomes.map (fun o => o.status == .skipped)
        = [false, false, false, true, false] := by
      rw [hreport]
      decide +kernel
    rw [← hskipped, houtcomes, List.map_map]
    rfl
  · rcases hresult with ⟨-, hok⟩ | hfails
    · have hfails : report.result.isOk = false := by
        rw [hreport]
        decide +kernel
      rw [hok] at hfails
      cases hfails
    · exact hfails

end Dataspace
