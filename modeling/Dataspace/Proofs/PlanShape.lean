/-
The shape of the plans that can be built.

A plan grows by create steps and by links that are taken in.  The kinds of its
create steps, in order, are then the kinds of its slots: the next create step
writes the slot whose number they are many, and a link reads two slots that
create steps before it write.  `Step.Ordered` says this by recursion on the
steps, in the form in which a run meets them.
-/
import Dataspace.Plan.Basic

namespace Dataspace

/-! ## Steps in order -/

theorem filterMap_cons_toList {α β : Type} (f : α → Option β) (a : α) (l : List α) :
    (a :: l).filterMap f = (f a).toList ++ l.filterMap f := by
  cases h : f a with
  | none => exact List.filterMap_cons_none h
  | some b => exact List.filterMap_cons_some h

/-- What is found once in a list was given by one element. -/
theorem eq_of_nodup_filterMap {α β : Type} {f : α → Option β} {l : List α}
    (h : (l.filterMap f).Nodup) {a b : α} (ha : a ∈ l) (hb : b ∈ l) {k : β} (hak : f a = some k)
    (hbk : f b = some k) : a = b := by
  induction l with
  | nil => exact absurd ha List.not_mem_nil
  | cons x rest ih =>
      rw [filterMap_cons_toList] at h
      obtain ⟨-, hrest, hapart⟩ := List.nodup_append.mp h
      have hclash : ∀ {y : α}, f x = some k → y ∈ rest → f y ≠ some k := by
        intro y hx hy hyk
        exact hapart k (by simp [hx]) k (List.mem_filterMap.mpr ⟨y, hy, hyk⟩) rfl
      rcases List.mem_cons.mp ha with rfl | har
      · rcases List.mem_cons.mp hb with rfl | hbr
        · rfl
        · exact absurd hbk (hclash hak hbr)
      · rcases List.mem_cons.mp hb with rfl | hbr
        · exact absurd hak (hclash hbk har)
        · exact ih hrest har hbr

namespace Step

/-- The kind of entity that the step creates. -/
def creates (step : Step) : Option EntityKind :=
  match step.action with
  | .create kind .. => some kind
  | .link .. => none

/-- The kind of entity that the step creates, with the slot that it writes. -/
def creation (step : Step) : Option (EntityKind × Nat) :=
  match step.action with
  | .create kind _ output => some (kind, output)
  | .link .. => none

/-- The kinds of the entities that steps create, in order. -/
def kinds (steps : List Step) : List EntityKind :=
  steps.filterMap creates

/-- The step can come after steps that create entities of these kinds: it writes the
next slot, or reads two of theirs whose kinds go together. -/
def Fits (before : List EntityKind) (step : Step) : Prop :=
  match step.action with
  | .create _ _ output => output = before.length
  | .link parent child => ∃ p c, before[parent]? = some p ∧ before[child]? = some c ∧
      p.accepts c = true

/-- Every step fits those before it. -/
def Ordered : List EntityKind → List Step → Prop
  | _, [] => True
  | before, step :: rest => step.Fits before ∧ Ordered (before ++ step.creates.toList) rest

theorem kinds_cons (step : Step) (rest : List Step) :
    kinds (step :: rest) = step.creates.toList ++ kinds rest :=
  filterMap_cons_toList creates step rest

theorem kinds_concat (steps : List Step) (step : Step) :
    kinds (steps ++ [step]) = kinds steps ++ step.creates.toList := by
  rw [kinds, List.filterMap_append, ← kinds, ← kinds, kinds_cons]
  exact congrArg (kinds steps ++ ·) (List.append_nil _)

theorem ordered_concat {before : List EntityKind} {steps : List Step} {step : Step}
    (hsteps : Ordered before steps) (hstep : step.Fits (before ++ kinds steps)) :
    Ordered before (steps ++ [step]) := by
  induction steps generalizing before with
  | nil => exact ⟨by simpa [kinds] using hstep, trivial⟩
  | cons first rest ih =>
      refine ⟨hsteps.1, ih hsteps.2 ?_⟩
      rw [List.append_assoc, ← kinds_cons]
      exact hstep

theorem kinds_append (front back : List Step) : kinds (front ++ back) = kinds front ++ kinds back :=
  List.filterMap_append ..

/-- A part of steps in order is in order, after what was created before it. -/
theorem Ordered.split {before : List EntityKind} {front back : List Step}
    (h : Ordered before (front ++ back)) :
    Ordered before front ∧ Ordered (before ++ kinds front) back := by
  induction front generalizing before with
  | nil => exact ⟨trivial, by simpa [kinds] using h⟩
  | cons step rest ih =>
      obtain ⟨hrest, hback⟩ := ih h.2
      refine ⟨⟨h.1, hrest⟩, ?_⟩
      rw [kinds_cons, ← List.append_assoc]
      exact hback

/-- Create steps write one slot after the other. -/
theorem creation_of_ordered {before : List EntityKind} {steps : List Step}
    (h : Ordered before steps) :
    steps.filterMap creation = (kinds steps).zipIdx before.length := by
  induction steps generalizing before with
  | nil => rfl
  | cons step rest ih =>
      obtain ⟨label, action⟩ := step
      cases action with
      | create kind fields output =>
          have houtput : output = before.length := h.1
          have hrest := ih h.2
          rw [List.length_append] at hrest
          rw [houtput, kinds_cons]
          exact congrArg ((kind, before.length) :: ·) hrest
      | link parent child =>
          have hrest : Ordered before rest := by simpa [creates] using h.2
          exact ih hrest

theorem writes_eq_creation (step : Step) : step.writes = step.creation.map Prod.snd := by
  cases h : step.action with
  | create _ _ _ => simp [writes, creation, h]
  | link _ _ => simp [writes, creation, h]

/-- The slots that create steps write, in order. -/
theorem writes_of_ordered {before : List EntityKind} {steps : List Step}
    (h : Ordered before steps) :
    steps.filterMap writes = List.range' before.length (kinds steps).length := by
  have hwrites : steps.filterMap writes = (steps.filterMap creation).map Prod.snd := by
    rw [List.map_filterMap]
    exact congrArg (List.filterMap · steps) (funext writes_eq_creation)
  rw [hwrites, creation_of_ordered h, List.zipIdx_map_snd]

/-- Steps in order from the start write every slot below their number of creates. -/
theorem Ordered.exists_writes {steps : List Step} (h : Ordered [] steps) {slot : Nat}
    (hslot : slot < (kinds steps).length) : ∃ step ∈ steps, step.writes = some slot := by
  have hmem : slot ∈ steps.filterMap writes := by
    rw [writes_of_ordered h]
    exact List.mem_range'_1.mpr ⟨Nat.zero_le _, by simpa using hslot⟩
  exact List.mem_filterMap.mp hmem

end Step

/-! ## Plans -/

namespace Plan

/-- The plans that are made by creating and linking. -/
inductive Built : Plan → Prop where
  | new (id : Nat) : Built (.new id)
  | create {p : Plan} (label : String) (kind : EntityKind) (fields : Json) :
      p.Built → (p.create label kind fields).Built
  | link {p q : Plan} {parent child : Slot} : p.Built → p.link parent child = .ok q → q.Built

theorem slotInfo_ok {p : Plan} {slot : Slot} {info : SlotInfo} (h : p.slotInfo slot = .ok info) :
    slot.plan = p.id ∧ p.slots[slot.index]? = some info := by
  unfold slotInfo at h
  split at h
  · rename_i hplan
    split at h
    · rename_i found hfound
      cases h
      exact ⟨hplan, hfound⟩
    · cases h
  · cases h

theorem slotInfo_of_getElem? {p : Plan} {slot : Slot} {info : SlotInfo} (hplan : slot.plan = p.id)
    (h : p.slots[slot.index]? = some info) : p.slotInfo slot = .ok info := by
  simp only [slotInfo, if_pos hplan, h]

/-- Both slots are of the plan, and their kinds go together. -/
def Joins (p : Plan) (parent child : Slot) : Prop :=
  ∃ parentInfo childInfo, parent.plan = p.id ∧ child.plan = p.id ∧
    p.slots[parent.index]? = some parentInfo ∧ p.slots[child.index]? = some childInfo ∧
    parentInfo.kind.accepts childInfo.kind = true

/-- A link that is taken in joins two slots of the plan, and adds one step. -/
theorem link_ok {p q : Plan} {parent child : Slot} (h : p.link parent child = .ok q) :
    p.Joins parent child ∧ ∃ label,
      q = { p with steps := p.steps ++ [⟨label, .link parent.index child.index⟩] } := by
  unfold link at h
  cases hparent : p.slotInfo parent with
  | error e => simp [hparent, bind, Except.bind] at h
  | ok parentInfo =>
      cases hchild : p.slotInfo child with
      | error e => simp [hparent, hchild, bind, Except.bind] at h
      | ok childInfo =>
          simp only [hparent, hchild, bind, Except.bind] at h
          split at h
          · rename_i haccepts
            cases h
            obtain ⟨hplan, hparent'⟩ := slotInfo_ok hparent
            obtain ⟨hplan', hchild'⟩ := slotInfo_ok hchild
            exact ⟨⟨parentInfo, childInfo, hplan, hplan', hparent', hchild', haccepts⟩, _, rfl⟩
          · cases h

theorem link_of_joins {p : Plan} {parent child : Slot} (h : p.Joins parent child) :
    ∃ label, p.link parent child =
      .ok { p with steps := p.steps ++ [⟨label, .link parent.index child.index⟩] } := by
  obtain ⟨parentInfo, childInfo, hplan, hplan', hparent, hchild, haccepts⟩ := h
  refine ⟨s!"link {childInfo.label} to {parentInfo.label}", ?_⟩
  simp only [link, slotInfo_of_getElem? hplan hparent, slotInfo_of_getElem? hplan' hchild, bind,
    Except.bind, if_pos haccepts]
  rfl

/-- The slots of a plan are those of its create steps, and its steps are in order. -/
theorem Built.ordered {p : Plan} (h : p.Built) :
    Step.kinds p.steps = p.slots.map SlotInfo.kind ∧ Step.Ordered [] p.steps := by
  induction h with
  | new id => exact ⟨rfl, trivial⟩
  | @create p label kind fields _ ih =>
      obtain ⟨hkinds, hordered⟩ := ih
      refine ⟨?_, Step.ordered_concat hordered ?_⟩
      · show Step.kinds (p.steps ++ _) = (p.slots ++ _).map SlotInfo.kind
        rw [Step.kinds_concat, hkinds, List.map_append]
        rfl
      · show p.slots.length = ([] ++ Step.kinds p.steps).length
        rw [hkinds]
        simp
  | @link p q parent child _ hlink ih =>
      obtain ⟨hkinds, hordered⟩ := ih
      obtain ⟨⟨parentInfo, childInfo, -, -, hparent, hchild, haccepts⟩, label, rfl⟩ := link_ok hlink
      refine ⟨?_, Step.ordered_concat hordered ?_⟩
      · rw [Step.kinds_concat, hkinds]
        exact List.append_nil _
      · refine ⟨parentInfo.kind, childInfo.kind, ?_, ?_, haccepts⟩
        · simp [hkinds, hparent]
        · simp [hkinds, hchild]

/-- The create steps of a plan write its slots, each once and in order. -/
theorem Built.writes {p : Plan} (h : p.Built) :
    p.steps.filterMap Step.writes = List.range p.slots.length := by
  obtain ⟨hkinds, hordered⟩ := h.ordered
  have hwrites := Step.writes_of_ordered hordered
  rw [hkinds, List.length_map] at hwrites
  rw [hwrites, List.range_eq_range']
  rfl

end Plan

end Dataspace
