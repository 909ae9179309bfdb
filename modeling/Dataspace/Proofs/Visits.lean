/-
What the visits of a run tell.

Which visits made a call and what they asked for, and which of them gave the
handles that are there at the end.  All of it is first read off one turn and then
carried along the run, under either policy.
-/
import Dataspace.Proofs.Creating
import Dataspace.Proofs.Turns

namespace Dataspace

/-- A URL in a collection has no end that a collection has not. -/
theorem append_collection_ne {path : String} {c : Char} (hpath : path.toList.getLast? = some c)
    (hc : c ≠ 's') (front base : String) (kind : EntityKind) :
    front ++ kind.collection ≠ base ++ path := by
  have hlast : kind.collection.toList.getLast? = some 's' := by
    cases kind <;> decide +kernel
  intro h
  have heq := congrArg (fun s : String => s.toList.getLast?) h
  simp [String.toList_append, List.getLast?_append, hlast, hpath] at heq
  exact hc heq.symm

/-! ## What a turn says -/

section Facts

variable {base : String} {policy : FailurePolicy} {p q : Progress} {v : Visit}

theorem Turn.call_eq_none_iff (h : Turn base policy p v q) :
    v.call = none ↔ v.status = .skipped := by
  cases h <;> simp

/-- Only a skipped visit is one of a step that is passed over. -/
theorem Turn.skipped_iff (h : Turn base policy p v q) :
    v.status = .skipped ↔ v.step.isSkipped policy p = true := by
  cases h with
  | skipped hskip => exact iff_of_true rfl hskip
  | created hskip _ _ | uncreated hskip _ _ | linked hskip _ _ _ _ | unlinked hskip _ _ _ _ =>
      simp [hskip]

/-- With this answer the step is done: it is a success, and to a create step one whose location is a
handle of the kind that the step creates. -/
def Step.DoneBy (step : Step) (answer : Except Outage Response) : Prop :=
  ∃ response, answer = .ok response ∧ (200 ≤ response.status ∧ response.status < 300) ∧
    ∀ kind fields output, step.action = .create kind fields output → ∃ location handle,
      response.location = some location ∧ Handle.parse location = .ok handle ∧ handle.kind = kind

/-- The answer decides whether a step for which there was a call is done. -/
theorem Turn.done_iff {call : Call} (h : Turn base policy p v q) (hcall : v.call = some call) :
    v.status = .done ↔ v.step.DoneBy call.2 := by
  cases h with
  | skipped _ => cases hcall
  | @created step kind fields output answer handle _ haction hcreated =>
      cases hcall
      refine iff_of_true rfl ?_
      cases answer with
      | error outage => cases hcreated
      | ok response =>
          obtain ⟨hsuccess, hkind, location, hlocation, hparse⟩ :=
            Client.createdHandle_eq_ok_iff.mp hcreated
          refine ⟨response, rfl, Response.isSuccess_iff.mp hsuccess, ?_⟩
          intro other _ _ hother
          cases haction.symm.trans hother
          exact ⟨location, handle, hlocation, hparse, hkind⟩
  | @uncreated step kind fields output answer e _ haction hfailed =>
      cases hcall
      refine iff_of_false (fun hdone => nomatch hdone) ?_
      rintro ⟨response, hanswer, hstatus, hlocated⟩
      obtain rfl : answer = .ok response := hanswer
      obtain ⟨location, handle, hlocation, hparse, hkind⟩ := hlocated kind fields output haction
      cases hfailed.symm.trans (Client.createdHandle_eq_ok_iff.mpr
        ⟨Response.isSuccess_iff.mpr hstatus, hkind, location, hlocation, hparse⟩)
  | linked _ haction _ _ hlinked =>
      cases hcall
      obtain ⟨response, hanswer, hsuccess⟩ := Client.linkResult_eq_ok_iff.mp hlinked
      refine iff_of_true rfl ⟨response, hanswer, Response.isSuccess_iff.mp hsuccess, ?_⟩
      intro _ _ _ hother
      cases haction.symm.trans hother
  | unlinked _ _ _ _ hfailed =>
      cases hcall
      refine iff_of_false (fun hdone => nomatch hdone) ?_
      rintro ⟨response, hanswer, hstatus, -⟩
      cases hfailed.symm.trans (Client.linkResult_eq_ok_iff.mpr
        ⟨response, hanswer, Response.isSuccess_iff.mpr hstatus⟩)

theorem Turn.request_create {kind : EntityKind} {fields : Json} {output : Nat} {call : Call}
    (h : Turn base policy p v q) (haction : v.step.action = .create kind fields output)
    (hcall : v.call = some call) : call.1 = Client.createRequest base kind fields := by
  cases h with
  | skipped _ => cases hcall
  | created _ haction' _ | uncreated _ haction' _ =>
      cases hcall
      cases haction'.symm.trans haction
      rfl
  | linked _ haction' _ _ _ | unlinked _ haction' _ _ _ => cases haction'.symm.trans haction

theorem Turn.request_link {parent child : Nat} {call : Call} (h : Turn base policy p v q)
    (haction : v.step.action = .link parent child) (hcall : v.call = some call) :
    ∃ parentHandle childHandle, p.handle? parent = some parentHandle ∧
      p.handle? child = some childHandle ∧
      call.1 = Client.linkRequest parentHandle childHandle := by
  cases h with
  | skipped _ => cases hcall
  | created _ haction' _ | uncreated _ haction' _ => cases haction'.symm.trans haction
  | linked _ haction' hparent hchild _ | unlinked _ haction' hparent hchild _ =>
      cases hcall
      cases haction'.symm.trans haction
      exact ⟨_, _, hparent, hchild, rfl⟩

/-- Every request of a turn posts to a collection. -/
theorem Turn.request_post (h : Turn base policy p v q) {call : Call} (hcall : v.call = some call) :
    ∃ front kind body, call.1 = .post (front ++ EntityKind.collection kind) body := by
  cases h with
  | skipped _ => cases hcall
  | @created _ kind fields _ _ _ _ _ _ | @uncreated _ kind fields _ _ _ _ _ _ =>
      cases hcall
      refine ⟨base ++ "/api/", kind, some fields, ?_⟩
      rw [Client.createRequest, EntityKind.createPath, String.append_assoc]
  | @linked _ _ _ _ child _ _ _ _ _ _ | @unlinked _ _ _ _ child _ _ _ _ _ _ _ =>
      cases hcall
      exact ⟨_, child.kind, _, rfl⟩

/-- The visit created the entity with this handle for a slot: the step was done, and
the answer to its request gives the handle. -/
def Visit.Gives (base : String) (v : Visit) (slot : Nat) (handle : Handle) : Prop :=
  ∃ kind fields answer, v.step.action = .create kind fields slot ∧ v.status = .done ∧
    v.call = some (Client.createRequest base kind fields, answer) ∧
    Client.createdHandle base kind fields answer = .ok handle

/-- A handle that is there after a turn was there before, or the visit gave it. -/
theorem Turn.handle?_cases (h : Turn base policy p v q) {slot : Nat} {handle : Handle}
    (hslot : q.handle? slot = some handle) :
    p.handle? slot = some handle ∨ v.Gives base slot handle := by
  cases h with
  | @created step kind fields output answer found _ haction hfound =>
      by_cases hrange : output < p.handles.length
      · rw [Progress.handle?_withHandle hrange] at hslot
        split at hslot
        · rename_i heq
          cases hslot
          exact Or.inr ⟨kind, fields, answer, heq ▸ haction, rfl, rfl, hfound⟩
        · exact Or.inl hslot
      · rw [Progress.withHandle_of_le (Nat.le_of_not_lt hrange)] at hslot
        exact Or.inl hslot
  | skipped _ | uncreated _ _ _ | linked _ _ _ _ _ | unlinked _ _ _ _ _ => exact Or.inl hslot

theorem Turn.length_handles (h : Turn base policy p v q) : q.handles.length = p.handles.length := by
  cases h with
  | created _ _ _ => exact p.length_withHandle _ _
  | skipped _ | uncreated _ _ _ | linked _ _ _ _ _ | unlinked _ _ _ _ _ => rfl

/-- A done create step has its handle afterwards. -/
theorem Turn.isSome_of_done (h : Turn base policy p v q) {slot : Nat}
    (hrange : slot < p.handles.length) (hwrites : v.step.writes = some slot)
    (hdone : v.status = .done) : (q.handle? slot).isSome = true := by
  cases h with
  | @created step _ _ output _ _ _ haction _ =>
      have hslot : output = slot := by simpa [Step.writes, haction] using hwrites
      subst hslot
      rw [Progress.handle?_withHandle hrange, if_pos rfl]
      rfl
  | skipped _ | uncreated _ _ _ | unlinked _ _ _ _ _ => cases hdone
  | linked _ haction _ _ _ => simp [Step.writes, haction] at hwrites

/-- No turn takes a handle away. -/
theorem Turn.isSome_handle? (h : Turn base policy p v q) {slot : Nat}
    (hslot : (p.handle? slot).isSome = true) : (q.handle? slot).isSome = true := by
  cases h with
  | @created _ _ _ output _ handle _ _ _ =>
      by_cases hrange : output < p.handles.length
      · rw [Progress.handle?_withHandle hrange]
        split
        · rfl
        · exact hslot
      · rw [Progress.withHandle_of_le (Nat.le_of_not_lt hrange)]
        exact hslot
  | skipped _ | uncreated _ _ _ | linked _ _ _ _ _ | unlinked _ _ _ _ _ => exact hslot

end Facts

/-! ## What the turns of a run say -/

namespace Turns

variable {base : String} {policy : FailurePolicy} {p q : Progress} {visits : List Visit}

/-- The turns up to a visit, and the turns from it on. -/
theorem split {before after : List Visit} (h : Turns base policy p (before ++ after) q) :
    ∃ m, Turns base policy p before m ∧ Turns base policy m after q := by
  induction before generalizing p with
  | nil => exact ⟨p, .nil, h⟩
  | cons v rest ih =>
      cases h with
      | cons hturn hrest =>
          obtain ⟨m, hfirst, hlast⟩ := ih hrest
          exact ⟨m, .cons hturn hfirst, hlast⟩

theorem call_eq_none_iff (h : Turns base policy p visits q) :
    ∀ v ∈ visits, v.call = none ↔ v.status = .skipped := by
  induction h with
  | nil => exact List.forall_mem_nil _
  | cons hturn _ ih =>
      intro v hv
      rcases List.mem_cons.mp hv with rfl | hv
      · exact hturn.call_eq_none_iff
      · exact ih v hv

theorem done_iff (h : Turns base policy p visits q) : ∀ v ∈ visits, ∀ call, v.call = some call →
    (v.status = .done ↔ v.step.DoneBy call.2) := by
  induction h with
  | nil => exact List.forall_mem_nil _
  | cons hturn _ ih =>
      intro v hv call hcall
      rcases List.mem_cons.mp hv with rfl | hv
      · exact hturn.done_iff hcall
      · exact ih v hv call hcall

theorem request_post (h : Turns base policy p visits q) : ∀ call ∈ visits.filterMap Visit.call,
    ∃ front kind body, call.1 = .post (front ++ EntityKind.collection kind) body := by
  induction h with
  | nil => exact List.forall_mem_nil _
  | cons hturn _ ih =>
      intro call hcall
      obtain ⟨v, hv, hmade⟩ := List.mem_filterMap.mp hcall
      rcases List.mem_cons.mp hv with rfl | hrest
      · exact hturn.request_post hmade
      · exact ih call (List.mem_filterMap.mpr ⟨v, hrest, hmade⟩)

/-- A handle was there before the run, or a create step of the run gave it. -/
theorem handle?_cases (h : Turns base policy p visits q) {slot : Nat} {handle : Handle}
    (hslot : q.handle? slot = some handle) :
    p.handle? slot = some handle ∨ ∃ v ∈ visits, v.Gives base slot handle := by
  induction h with
  | nil => exact Or.inl hslot
  | cons hturn _ ih =>
      rcases ih hslot with hslot | ⟨v, hv, hgives⟩
      · rcases hturn.handle?_cases hslot with hslot | hgives
        · exact Or.inl hslot
        · exact Or.inr ⟨_, List.mem_cons_self, hgives⟩
      · exact Or.inr ⟨v, List.mem_cons_of_mem _ hv, hgives⟩

theorem isSome_handle? (h : Turns base policy p visits q) {slot : Nat}
    (hslot : (p.handle? slot).isSome = true) : (q.handle? slot).isSome = true := by
  induction h with
  | nil => exact hslot
  | cons hturn _ ih => exact ih (hturn.isSome_handle? hslot)

theorem length_handles (h : Turns base policy p visits q) :
    q.handles.length = p.handles.length := by
  induction h with
  | nil => rfl
  | cons hturn _ ih => exact ih.trans hturn.length_handles

/-- The handle of every done create step is there at the end. -/
theorem isSome_of_done (h : Turns base policy p visits q) {slot : Nat}
    (hrange : slot < p.handles.length) {v : Visit} (hv : v ∈ visits)
    (hwrites : v.step.writes = some slot) (hdone : v.status = .done) :
    (q.handle? slot).isSome = true := by
  induction h with
  | nil => exact absurd hv List.not_mem_nil
  | cons hturn hrest ih =>
      rcases List.mem_cons.mp hv with rfl | hv
      · exact hrest.isSome_handle? (hturn.isSome_of_done hrange hwrites hdone)
      · exact ih (hturn.length_handles.symm ▸ hrange) hv

/-- In a run from the start, every handle was given by a create step of the run. -/
theorem gives_of_handle? {slots : Nat} (h : Turns base policy (.start slots) visits q) {slot : Nat}
    {handle : Handle} (hslot : q.handle? slot = some handle) :
    ∃ v ∈ visits, v.Gives base slot handle := by
  rcases h.handle?_cases hslot with hstart | hgives
  · exact absurd ((Progress.handle?_start slots slot).symm.trans hstart) (by simp)
  · exact hgives

/-- In a run from the start, a slot holds a handle if and only if its create step was done. -/
theorem isSome_handle?_iff {slots : Nat} (h : Turns base policy (.start slots) visits q)
    (hwrites : ∀ v ∈ visits, ∀ slot, v.step.writes = some slot → slot < slots) (slot : Nat) :
    (q.handle? slot).isSome = true ↔
      ∃ v ∈ visits, v.step.writes = some slot ∧ v.status = .done := by
  constructor
  · intro hslot
    obtain ⟨handle, hhandle⟩ := Option.isSome_iff_exists.mp hslot
    obtain ⟨v, hv, kind, fields, answer, haction, hdone, -, -⟩ := h.gives_of_handle? hhandle
    exact ⟨v, hv, by rw [Step.writes, haction], hdone⟩
  · rintro ⟨v, hv, hslot, hdone⟩
    refine h.isSome_of_done ?_ hv hslot hdone
    rw [Progress.start, List.length_replicate]
    exact hwrites v hv slot hslot

/-- The request of a create step posts its fields to the collection of its kind. -/
theorem request_create {before after : List Visit} {v : Visit}
    (h : Turns base policy p (before ++ v :: after) q) {kind : EntityKind} {fields : Json}
    {output : Nat} {call : Call} (haction : v.step.action = .create kind fields output)
    (hcall : v.call = some call) :
    call.1 = .post (base ++ "/api/" ++ kind.collection) (some fields) := by
  obtain ⟨m, -, hafter⟩ := h.split
  cases hafter with
  | cons hturn _ =>
      rw [hturn.request_create haction hcall, Client.createRequest, EntityKind.createPath,
        String.append_assoc]

/-- The request of a link step names two handles that earlier create steps of the run
gave for the step's slots. -/
theorem request_link {slots : Nat} {before after : List Visit} {v : Visit}
    (h : Turns base policy (.start slots) (before ++ v :: after) q) {parent child : Nat}
    {call : Call} (haction : v.step.action = .link parent child) (hcall : v.call = some call) :
    ∃ parentHandle childHandle, call.1 = Client.linkRequest parentHandle childHandle ∧
      (∃ u ∈ before, u.Gives base parent parentHandle) ∧
      ∃ u ∈ before, u.Gives base child childHandle := by
  obtain ⟨m, hbefore, hafter⟩ := h.split
  cases hafter with
  | cons hturn _ =>
      obtain ⟨parentHandle, childHandle, hparent, hchild, hrequest⟩ :=
        hturn.request_link haction hcall
      exact ⟨parentHandle, childHandle, hrequest, hbefore.gives_of_handle? hparent,
        hbefore.gives_of_handle? hchild⟩

end Turns

/-! ## The first failure -/

/-- The step failed. -/
def Visit.Failed (v : Visit) : Prop :=
  ∃ e, v.status = .failed e

/-- Of the visited steps one failed with this error, and those before it are done. -/
def FailsAt (visits : List Visit) (e : ConnectorError) : Prop :=
  ∃ before v after, visits = before ++ v :: after ∧ (∀ u ∈ before, u.status = .done) ∧
    v.status = .failed e

theorem first_not_done (visits : List Visit) : (∀ v ∈ visits, v.status = .done) ∨
    ∃ before v after, visits = before ++ v :: after ∧ (∀ u ∈ before, u.status = .done) ∧
      v.status ≠ .done := by
  induction visits with
  | nil => exact Or.inl (List.forall_mem_nil _)
  | cons v rest ih =>
      by_cases hv : v.status = .done
      · rcases ih with hall | ⟨before, w, after, rfl, hbefore, hw⟩
        · exact Or.inl (List.forall_mem_cons.mpr ⟨hv, hall⟩)
        · exact Or.inr ⟨v :: before, w, after, rfl, List.forall_mem_cons.mpr ⟨hv, hbefore⟩, hw⟩
      · exact Or.inr ⟨[], v, rest, rfl, List.forall_mem_nil _, hv⟩

/-- When a step is passed over only after a failure, the first step that is not done failed. -/
theorem done_or_failsAt_of_cause {visits : List Visit}
    (h : ∀ before v after, visits = before ++ v :: after → v.status = .skipped →
      ∃ u ∈ before, u.Failed) :
    (∀ v ∈ visits, v.status = .done) ∨ ∃ e, FailsAt visits e := by
  rcases first_not_done visits with hall | ⟨before, v, after, hvisits, hbefore, hv⟩
  · exact Or.inl hall
  · cases hstatus : v.status with
    | done => exact absurd hstatus hv
    | failed e => exact Or.inr ⟨e, before, v, after, hvisits, hbefore, hstatus⟩
    | skipped =>
        obtain ⟨u, hu, e, he⟩ := h before v after hvisits hstatus
        exact absurd (he.symm.trans (hbefore u hu)) (by simp)

/-! ## What a report says of the visits -/

namespace Report

variable {r : Report} {visits : List Visit}

theorem isComplete_iff (houtcomes : r.outcomes = visits.map Visit.outcome) :
    r.isComplete = true ↔ ∀ v ∈ visits, v.status = .done := by
  rw [isComplete, houtcomes, List.all_map, List.all_eq_true]
  refine forall_congr' ?_
  intro v
  exact imp_congr_right fun _ => beq_iff_eq

theorem result_of_done (houtcomes : r.outcomes = visits.map Visit.outcome)
    (h : ∀ v ∈ visits, v.status = .done) : r.result = .ok r := by
  rw [result, if_pos ((isComplete_iff houtcomes).mpr h)]

theorem first_error_of_done (houtcomes : r.outcomes = visits.map Visit.outcome)
    (h : ∀ v ∈ visits, v.status = .done) : r.outcomes.findSome? StepOutcome.error? = none := by
  rw [houtcomes, List.findSome?_eq_none_iff]
  intro o ho
  obtain ⟨v, hv, rfl⟩ := List.mem_map.mp ho
  rw [StepOutcome.error?, Visit.outcome, h v hv]

/-- The first error among the outcomes is that of the first failure. -/
theorem first_error_of_failsAt {e : ConnectorError}
    (houtcomes : r.outcomes = visits.map Visit.outcome) (h : FailsAt visits e) :
    r.outcomes.findSome? StepOutcome.error? = some e := by
  obtain ⟨before, v, after, rfl, hbefore, hv⟩ := h
  have hnone : ∀ o ∈ before.map Visit.outcome, o.error? = none := by
    intro o ho
    obtain ⟨u, hu, rfl⟩ := List.mem_map.mp ho
    rw [StepOutcome.error?, Visit.outcome, hbefore u hu]
  rw [houtcomes, List.map_append, List.findSome?_append,
    List.findSome?_eq_none_iff.mpr hnone, List.map_cons, List.findSome?_cons]
  simp [StepOutcome.error?, Visit.outcome, hv]

theorem not_isComplete_of_failsAt {e : ConnectorError}
    (houtcomes : r.outcomes = visits.map Visit.outcome) (h : FailsAt visits e) :
    ¬ r.isComplete = true := by
  obtain ⟨before, v, after, rfl, -, hv⟩ := h
  intro hcomplete
  have hdone := (isComplete_iff houtcomes).mp hcomplete v (by simp)
  exact absurd (hv.symm.trans hdone) (by simp)

/-- The result is the error of the first failure. -/
theorem result_of_failsAt {e : ConnectorError} (houtcomes : r.outcomes = visits.map Visit.outcome)
    (h : FailsAt visits e) : r.result = .error e := by
  rw [result, if_neg (not_isComplete_of_failsAt houtcomes h), first_error_of_failsAt houtcomes h]

/-- There is a failure if and only if there is an error among the outcomes. -/
theorem failures_eq_nil_iff : r.failures = [] ↔ r.outcomes.findSome? StepOutcome.error? = none := by
  rw [failures, List.filter_eq_nil_iff, List.findSome?_eq_none_iff]
  exact forall₂_congr fun o _ => by simp

theorem failures_ne_nil_of_failsAt {e : ConnectorError}
    (houtcomes : r.outcomes = visits.map Visit.outcome) (h : FailsAt visits e) :
    r.failures ≠ [] := by
  rw [Ne, failures_eq_nil_iff, first_error_of_failsAt houtcomes h]
  exact Option.some_ne_none e

end Report

/-! ## The slots of a plan that was run -/

section Slots

variable {base : String} {policy : FailurePolicy} {q : Progress} {visits : List Visit} {plan : Plan}

/-- Two visits that write one slot are the same. -/
theorem Plan.Built.eq_of_writes (hb : plan.Built) (hsteps : visits.map Visit.step = plan.steps)
    {u v : Visit} (hu : u ∈ visits) (hv : v ∈ visits) {slot : Nat}
    (huw : u.step.writes = some slot) (hvw : v.step.writes = some slot) : u = v := by
  have hwrites : visits.filterMap (fun v => v.step.writes) = List.range plan.slots.length := by
    rw [← hb.writes, ← hsteps, List.filterMap_map]
    rfl
  exact eq_of_nodup_filterMap (hwrites ▸ List.nodup_range) hu hv huw hvw

/-- A slot of the plan holds a handle if and only if its create step was done. -/
theorem Plan.Built.isSome_handle?_iff (hb : plan.Built)
    (hsteps : visits.map Visit.step = plan.steps)
    (h : Turns base policy (.start plan.slots.length) visits q) (slot : Slot) :
    (Report.handle? ⟨plan.id, q.handles, visits.map Visit.outcome⟩ slot).isSome = true ↔
      slot.plan = plan.id ∧ ∃ v ∈ visits, v.step.writes = some slot.index ∧ v.status = .done := by
  rw [Report.handle?]
  split
  · rename_i hplan
    refine (h.isSome_handle?_iff ?_ slot.index).trans (and_iff_right hplan).symm
    intro v hv k hk
    exact hb.writes_lt hsteps hv hk
  · rename_i hplan
    constructor
    · intro h
      cases h
    · intro h
      exact absurd h.1 hplan

end Slots

end Dataspace
