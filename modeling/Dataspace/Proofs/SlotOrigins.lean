/-
Where the slots come from that a plan takes.

Plans are drawn up side by side.  Each new plan gets a number, a copy of a plan keeps
the number of what it was copied from, and the two grow apart from then on.  A slot is
the number of the plan that gave it out and its place there, so slots that two copies
give out for the same place after the copying cannot be told apart: a plan takes each
slot that equals one of its own, and then means its own by it.  That much is exact.  The
plan that really gave the slot out has the same number, so without copies only a plan's
own slots are taken, as long as the numbers do not begin anew.
-/
import Dataspace.Proofs.Building
import Dataspace.Proofs.Placing

namespace Dataspace

/-- How many numbers there are for plans; they are counted in 64 bits. -/
def Plan.identities : Nat := 18446744073709551616

/-! ## Plans drawn up side by side -/

/-- A slot that was given out, the draft that gave it out, and what it was given out for. -/
structure Issue where
  issuer : Nat
  slot : Slot
  info : SlotInfo

/-- A plan that is being drawn up: how many new plans there were before the one that it goes back
to, and which slots are its own.  Those are the slots that it gave out itself or that, when it was
copied, were the original's own. -/
structure Draft where
  plan : Plan
  origin : Nat
  own : List Nat

/-- All drafts and all slots that were given out, each in order, and how many plans were new. -/
structure Workshop where
  made : Nat
  drafts : List Draft
  issued : List Issue

/-- Something done in a workshop.  Drafts and slots are named by their places there. -/
inductive WorkshopCall where
  | new
  | copy (draft : Nat)
  | create (draft : Nat) (label : String) (kind : EntityKind) (fields : Json)
  | link (draft parent child : Nat)

namespace Draft

/-- The draft after a create step; the slot that it gives out is the one at this place. -/
def create (d : Draft) (slot : Nat) (label : String) (kind : EntityKind) (fields : Json) : Draft :=
  { d with plan := d.plan.create label kind fields, own := d.own ++ [slot] }

/-- The draft with another plan in it. -/
def withPlan (d : Draft) (p : Plan) : Draft :=
  { d with plan := p }

end Draft

namespace Workshop

def empty : Workshop :=
  ⟨0, [], []⟩

/-- The workshop with one more draft. -/
def add (w : Workshop) (d : Draft) : Workshop :=
  { w with drafts := w.drafts ++ [d] }

/-- The workshop with another draft at this place, and with more slots given out. -/
def put (w : Workshop) (place : Nat) (d : Draft) (more : List Issue) : Workshop :=
  { w with drafts := w.drafts.set place d, issued := w.issued ++ more }

/-- The workshop after a call.  A link that is refused changes nothing. -/
def perform (w : Workshop) : WorkshopCall → Workshop
  | .new => { w.add ⟨.new (w.made % Plan.identities), w.made, []⟩ with made := w.made + 1 }
  | .copy draft =>
    match w.drafts[draft]? with
    | some d => w.add d
    | none => w
  | .create draft label kind fields =>
    match w.drafts[draft]? with
    | some d =>
      w.put draft (d.create w.issued.length label kind fields)
        [⟨draft, d.plan.nextSlot, ⟨label, kind⟩⟩]
    | none => w
  | .link draft parent child =>
    match w.drafts[draft]?, w.issued[parent]?, w.issued[child]? with
    | some d, some p, some c =>
      match d.plan.link p.slot c.slot with
      | .ok plan => w.put draft (d.withPlan plan) []
      | .error _ => w
    | _, _, _ => w

def performAll (w : Workshop) (calls : List WorkshopCall) : Workshop :=
  calls.foldl perform w

/-- What a call can come to. -/
inductive Step (w : Workshop) : WorkshopCall → Workshop → Prop
  | idle (call : WorkshopCall) : Step w call w
  | new : Step w .new
      { w.add ⟨.new (w.made % Plan.identities), w.made, []⟩ with made := w.made + 1 }
  | copy {draft : Nat} {d : Draft} : w.drafts[draft]? = some d → Step w (.copy draft) (w.add d)
  | create {draft : Nat} {d : Draft} (label : String) (kind : EntityKind) (fields : Json) :
      w.drafts[draft]? = some d → Step w (.create draft label kind fields)
        (w.put draft (d.create w.issued.length label kind fields)
          [⟨draft, d.plan.nextSlot, ⟨label, kind⟩⟩])
  | link {draft parent child : Nat} {d : Draft} {p c : Slot} {plan : Plan} :
      w.drafts[draft]? = some d → d.plan.link p c = .ok plan →
      Step w (.link draft parent child) (w.put draft (d.withPlan plan) [])

theorem step_perform (w : Workshop) (call : WorkshopCall) : Step w call (w.perform call) := by
  cases call with
  | new => exact .new
  | copy draft =>
      simp only [perform]
      split
      · rename_i d hd
        exact .copy hd
      · exact .idle _
  | create draft label kind fields =>
      simp only [perform]
      split
      · rename_i d hd
        exact .create label kind fields hd
      · exact .idle _
  | link draft parent child =>
      simp only [perform]
      split
      · rename_i d p c hd _ _
        split
        · rename_i plan hlink
          exact .link hd hlink
        · exact .idle _
      · exact .idle _

/-- The slot is one of the draft's own. -/
def Owns (w : Workshop) (d : Draft) (e : Issue) : Prop :=
  ∃ n ∈ d.own, w.issued[n]? = some e

end Workshop

/-! ## What every history keeps -/

/-- The draft has the number of the plan that it goes back to, and its own slots are the slots of
its plan, place by place. -/
structure Draft.Sound (issued : List Issue) (d : Draft) : Prop where
  identity : d.plan.id = d.origin % Plan.identities
  length_own : d.own.length = d.plan.slots.length
  own_at : ∀ k n, d.own[k]? = some n → ∃ e : Issue, issued[n]? = some e ∧
    e.slot = ⟨d.plan.id, k⟩ ∧ d.plan.slots[k]? = some e.info

namespace Draft

variable {d : Draft} {issued : List Issue}

/-- Further slots make no difference. -/
theorem Sound.append (h : d.Sound issued) (more : List Issue) : d.Sound (issued ++ more) := by
  refine ⟨h.identity, h.length_own, ?_⟩
  intro k n hown
  obtain ⟨e, hissued, hslot, hinfo⟩ := h.own_at k n hown
  refine ⟨e, ?_, hslot, hinfo⟩
  rw [List.getElem?_append_left (List.getElem?_eq_some_iff.mp hissued).1]
  exact hissued

theorem sound_new (made : Nat) (issued : List Issue) :
    Sound issued ⟨.new (made % Plan.identities), made, []⟩ := by
  refine ⟨rfl, rfl, ?_⟩
  intro k n hown
  cases hown

/-- A create step gives out the next slot. -/
theorem Sound.create (h : d.Sound issued) (issuer : Nat) (label : String) (kind : EntityKind)
    (fields : Json) : (d.create issued.length label kind fields).Sound
      (issued ++ [⟨issuer, d.plan.nextSlot, ⟨label, kind⟩⟩]) := by
  refine ⟨h.identity, ?_, ?_⟩
  · show (d.own ++ [issued.length]).length = (d.plan.slots ++ [SlotInfo.mk label kind]).length
    rw [List.length_append, List.length_append, h.length_own]
    rfl
  · intro k n hown
    have hown' : (d.own ++ [issued.length])[k]? = some n := hown
    show ∃ e : Issue, _ ∧ e.slot = ⟨d.plan.id, k⟩ ∧
      (d.plan.slots ++ [SlotInfo.mk label kind])[k]? = some e.info
    rcases Nat.lt_trichotomy k d.own.length with hlt | rfl | hgt
    · rw [List.getElem?_append_left hlt] at hown'
      obtain ⟨e, hissued, hslot, hinfo⟩ := h.own_at k n hown'
      refine ⟨e, ?_, hslot, ?_⟩
      · rw [List.getElem?_append_left (List.getElem?_eq_some_iff.mp hissued).1]
        exact hissued
      · rw [List.getElem?_append_left (h.length_own ▸ hlt)]
        exact hinfo
    · rw [List.getElem?_concat_length] at hown'
      obtain rfl := Option.some.inj hown'
      refine ⟨_, List.getElem?_concat_length, ?_, ?_⟩
      · rw [h.length_own]
        rfl
      · rw [h.length_own, List.getElem?_concat_length]
    · rw [List.getElem?_eq_none (by rw [List.length_append, List.length_singleton]; omega)] at hown'
      cases hown'

/-- A link that is taken in leaves the slots as they are. -/
theorem Sound.link (h : d.Sound issued) {parent child : Slot} {q : Plan}
    (hlink : d.plan.link parent child = .ok q) : (d.withPlan q).Sound issued := by
  obtain ⟨-, label, rfl⟩ := Plan.link_ok hlink
  exact ⟨h.identity, h.length_own, h.own_at⟩

end Draft

namespace Workshop

/-- All drafts are sound, and each slot is its issuer's own. -/
structure Sound (w : Workshop) : Prop where
  drafts : ∀ d ∈ w.drafts, d.Sound w.issued
  issuers : ∀ n (e : Issue), w.issued[n]? = some e →
    ∃ d : Draft, w.drafts[e.issuer]? = some d ∧ n ∈ d.own

variable {w : Workshop} {d : Draft}

theorem sound_empty : empty.Sound := by
  refine ⟨?_, ?_⟩
  · intro d hd
    exact absurd hd List.not_mem_nil
  · intro n e hissued
    cases hissued

theorem Sound.add (h : w.Sound) (hd : d.Sound w.issued) : (w.add d).Sound := by
  refine ⟨?_, ?_⟩
  · intro x hx
    rcases List.mem_append.mp hx with hx | hx
    · exact h.drafts x hx
    · exact List.mem_singleton.mp hx ▸ hd
  · intro n e hissued
    obtain ⟨x, hx, hown⟩ := h.issuers n e hissued
    refine ⟨x, ?_, hown⟩
    show (w.drafts ++ [d])[e.issuer]? = some x
    rw [List.getElem?_append_left (List.getElem?_eq_some_iff.mp hx).1]
    exact hx

/-- A draft may be replaced by one that has its slots and all that are given out now. -/
theorem Sound.put (h : w.Sound) {place : Nat} {old : Draft} {more : List Issue}
    (hold : w.drafts[place]? = some old) (hd : d.Sound (w.issued ++ more))
    (hown : ∀ n ∈ old.own, n ∈ d.own)
    (hmore : ∀ k e, more[k]? = some e → e.issuer = place ∧ w.issued.length + k ∈ d.own) :
    (w.put place d more).Sound := by
  refine ⟨?_, ?_⟩
  · intro x hx
    rcases List.mem_or_eq_of_mem_set hx with hx | rfl
    · exact (h.drafts x hx).append more
    · exact hd
  · intro n e hissued
    have hhere : (w.put place d more).drafts[place]? = some d :=
      List.getElem?_set_self (List.getElem?_eq_some_iff.mp hold).1
    rcases Nat.lt_or_ge n w.issued.length with hlt | hge
    · have hbefore : w.issued[n]? = some e := by
        rw [← List.getElem?_append_left hlt]
        exact hissued
      obtain ⟨x, hx, hmem⟩ := h.issuers n e hbefore
      by_cases hplace : e.issuer = place
      · rw [hplace] at hx ⊢
        obtain rfl := Option.some.inj (hold.symm.trans hx)
        exact ⟨d, hhere, hown n hmem⟩
      · exact ⟨x, (List.getElem?_set_ne (Ne.symm hplace)).trans hx, hmem⟩
    · have hnow : more[n - w.issued.length]? = some e := by
        rw [← List.getElem?_append_right hge]
        exact hissued
      obtain ⟨hplace, hmem⟩ := hmore _ e hnow
      rw [Nat.add_sub_cancel' hge] at hmem
      exact ⟨d, hplace ▸ hhere, hmem⟩

theorem Sound.step {call : WorkshopCall} {next : Workshop} (h : w.Sound)
    (hstep : Step w call next) : next.Sound := by
  cases hstep with
  | idle => exact h
  | new =>
      have hadd := h.add (Draft.sound_new w.made w.issued)
      exact ⟨hadd.drafts, hadd.issuers⟩
  | copy hd => exact h.add (h.drafts _ (List.mem_of_getElem? hd))
  | create label kind fields hd =>
      refine h.put hd ((h.drafts _ (List.mem_of_getElem? hd)).create _ label kind fields)
        (fun n hn => List.mem_append_left _ hn) ?_
      intro k e hk
      obtain ⟨hlt, rfl⟩ := List.getElem?_eq_some_iff.mp hk
      obtain rfl : k = 0 := Nat.lt_one_iff.mp hlt
      exact ⟨rfl, List.mem_append_right _ (List.mem_singleton.mpr rfl)⟩
  | link hd hlink =>
      refine h.put hd (((h.drafts _ (List.mem_of_getElem? hd)).link hlink).append [])
        (fun n hn => hn) ?_
      intro k e hk
      cases hk

theorem sound_performAll (calls : List WorkshopCall) : (empty.performAll calls).Sound := by
  suffices hall : ∀ w : Workshop, w.Sound → (w.performAll calls).Sound from
    hall empty sound_empty
  induction calls with
  | nil => exact fun w h => h
  | cons call rest ih => exact fun w h => ih (w.perform call) (h.step (w.step_perform call))

/-! ## Slots that equal a draft's own -/

/-- What a draft's own slot was given out for is what its plan has in that place. -/
theorem slot_of_owns {e : Issue} (hd : d.Sound w.issued) (h : w.Owns d e) :
    e.slot.plan = d.plan.id ∧ d.plan.slots[e.slot.index]? = some e.info := by
  obtain ⟨n, hn, hissued⟩ := h
  obtain ⟨k, hk⟩ := List.mem_iff_getElem?.mp hn
  obtain ⟨e', hissued', hslot, hinfo⟩ := hd.own_at k n hk
  obtain rfl := Option.some.inj (hissued.symm.trans hissued')
  rw [hslot]
  exact ⟨rfl, hinfo⟩

theorem owns_of_slot {slot : Slot} {info : SlotInfo} (hd : d.Sound w.issued)
    (hplan : slot.plan = d.plan.id) (hslot : d.plan.slots[slot.index]? = some info) :
    ∃ e, w.Owns d e ∧ e.slot = slot ∧ e.info = info := by
  have hlt : slot.index < d.own.length := by
    rw [hd.length_own]
    exact (List.getElem?_eq_some_iff.mp hslot).1
  obtain ⟨e, hissued, hsame, hinfo⟩ := hd.own_at slot.index _ (List.getElem?_eq_getElem hlt)
  refine ⟨e, ⟨_, List.getElem_mem hlt, hissued⟩, ?_, ?_⟩
  · rw [hsame, ← hplan]
  · exact Option.some.inj (hinfo.symm.trans hslot)

/-- A link is taken in just when each slot equals one of the draft's own, and what those were given
out for goes together. -/
theorem link_iff_owns {parent child : Slot} (hd : d.Sound w.issued) :
    (∃ q, d.plan.link parent child = .ok q) ↔ ∃ p c, w.Owns d p ∧ w.Owns d c ∧
      p.slot = parent ∧ c.slot = child ∧ p.info.kind.accepts c.info.kind = true := by
  constructor
  · rintro ⟨q, hlink⟩
    obtain ⟨⟨parentInfo, childInfo, hparent, hchild, hparentInfo, hchildInfo, haccepts⟩, -⟩ :=
      Plan.link_ok hlink
    obtain ⟨p, hp, hpslot, rfl⟩ := owns_of_slot hd hparent hparentInfo
    obtain ⟨c, hc, hcslot, rfl⟩ := owns_of_slot hd hchild hchildInfo
    exact ⟨p, c, hp, hc, hpslot, hcslot, haccepts⟩
  · rintro ⟨p, c, hp, hc, rfl, rfl, haccepts⟩
    obtain ⟨hparent, hparentInfo⟩ := slot_of_owns hd hp
    obtain ⟨hchild, hchildInfo⟩ := slot_of_owns hd hc
    obtain ⟨label, hlink⟩ := Plan.link_of_joins
      ⟨p.info, c.info, hparent, hchild, hparentInfo, hchildInfo, haccepts⟩
    exact ⟨_, hlink⟩

/-- The slot equals one of the draft's own. -/
def Takes (w : Workshop) (d : Draft) (slot : Slot) : Prop :=
  ∃ e, w.Owns d e ∧ e.slot = slot

/-- The report of a run has handles only for slots that equal one of the draft's own. -/
theorem takes_of_handle? {σ : Type} {c : Client σ} {policy : FailurePolicy} {s : σ} {slot : Slot}
    {handle : Handle} (hd : d.Sound w.issued)
    (h : (d.plan.run c policy s).1.handle? slot = some handle) : w.Takes d slot := by
  unfold Report.handle? at h
  split at h
  · rename_i hplan
    have hlength : (d.plan.run c policy s).1.handles.length = d.plan.slots.length := by
      show (Plan.runSteps c policy d.plan.steps (.start d.plan.slots.length) s).2.1.handles.length = _
      rw [Plan.length_handles_runSteps, Progress.start, List.length_replicate]
    have hfound := Option.join_eq_some_iff.mp h
    have hlt := (List.getElem?_eq_some_iff.mp hfound).1
    rw [hlength] at hlt
    obtain ⟨e, hown, hslot, -⟩ := owns_of_slot hd hplan (List.getElem?_eq_getElem hlt)
    exact ⟨e, hown, hslot⟩
  · cases h

/-- A slot that equals one of a draft's own is its own, or another draft with the same number gave
it out. -/
theorem Sound.own_or_related (h : w.Sound) {place n : Nat} {e : Issue}
    (hd : w.drafts[place]? = some d) (he : w.issued[n]? = some e) (htakes : w.Takes d e.slot) :
    n ∈ d.own ∨ ∃ other, w.drafts[e.issuer]? = some other ∧ e.issuer ≠ place ∧
      other.origin % Plan.identities = d.origin % Plan.identities := by
  obtain ⟨other, hother, hown⟩ := h.issuers n e he
  by_cases hplace : e.issuer = place
  · rw [hplace, hd] at hother
    obtain rfl := Option.some.inj hother
    exact Or.inl hown
  · have hdSound := h.drafts d (List.mem_of_getElem? hd)
    have hotherSound := h.drafts other (List.mem_of_getElem? hother)
    obtain ⟨mine, hmine, hslot⟩ := htakes
    refine Or.inr ⟨other, hother, hplace, ?_⟩
    rw [← hdSound.identity, ← hotherSound.identity, ← (slot_of_owns hdSound hmine).1,
      ← (slot_of_owns hotherSound ⟨n, hown, he⟩).1, hslot]

/-! ## Histories without copies -/

/-- Each draft goes back to itself. -/
def Original (w : Workshop) : Prop :=
  w.drafts.map Draft.origin = List.range w.made

theorem Original.put (h : w.Original) {place : Nat} {old : Draft} {more : List Issue}
    (hold : w.drafts[place]? = some old) (horigin : d.origin = old.origin) :
    (w.put place d more).Original := by
  show (w.drafts.set place d).map Draft.origin = List.range w.made
  rw [List.map_set, horigin, ← h]
  refine List.ext_getElem? fun k => ?_
  rw [List.getElem?_set, List.getElem?_map]
  split
  · rename_i hplace
    subst hplace
    rw [hold, if_pos (by simpa using (List.getElem?_eq_some_iff.mp hold).1)]
    rfl
  · rfl

theorem Original.step {call : WorkshopCall} {next : Workshop} (h : w.Original)
    (hcall : ∀ draft, call ≠ .copy draft) (hstep : Step w call next) : next.Original := by
  cases hstep with
  | idle => exact h
  | new =>
      show (w.drafts ++ [_]).map Draft.origin = List.range (w.made + 1)
      rw [List.map_append, h, List.range_succ]
      rfl
  | copy _ => exact absurd rfl (hcall _)
  | create label kind fields hd => exact h.put hd rfl
  | link hd _ => exact h.put hd rfl

theorem original_performAll {calls : List WorkshopCall} (hcalls : ∀ draft, .copy draft ∉ calls) :
    (empty.performAll calls).Original := by
  suffices hall : ∀ w : Workshop, w.Original → (w.performAll calls).Original from hall empty rfl
  induction calls with
  | nil => exact fun w h => h
  | cons call rest ih =>
      intro w h
      refine ih (fun draft hmem => hcalls draft (List.mem_cons_of_mem call hmem)) _
        (h.step ?_ (w.step_perform call))
      rintro draft rfl
      exact hcalls draft List.mem_cons_self

/-- As long as the numbers do not begin anew, no two of these have the same. -/
theorem Original.eq_of_related (h : w.Original) (hmade : w.made ≤ Plan.identities) {i j : Nat}
    {other : Draft} (hd : w.drafts[i]? = some d) (hother : w.drafts[j]? = some other)
    (hsame : other.origin % Plan.identities = d.origin % Plan.identities) : j = i := by
  have horigin : ∀ {k : Nat} {x : Draft}, w.drafts[k]? = some x →
      x.origin = k ∧ k < Plan.identities := by
    intro k x hx
    have hmap : (w.drafts.map Draft.origin)[k]? = some x.origin := by
      rw [List.getElem?_map, hx]
      rfl
    rw [h] at hmap
    obtain ⟨hlt, hplace⟩ := List.getElem?_eq_some_iff.mp hmap
    rw [List.getElem_range] at hplace
    rw [List.length_range] at hlt
    exact ⟨hplace.symm, Nat.lt_of_lt_of_le hlt hmade⟩
  obtain ⟨hi, hilt⟩ := horigin hd
  obtain ⟨hj, hjlt⟩ := horigin hother
  rwa [hi, hj, Nat.mod_eq_of_lt hilt, Nat.mod_eq_of_lt hjlt] at hsame

end Workshop

/-! ## Every history -/

/-- Of any plans and copies of plans, after any calls: a link is taken in just when each of its
slots equals one of the draft's own, and then it is between those; a report has handles only for
slots that equal one of the draft's own.  A slot that equals one of them is its own, or was given
out by another draft that has the same number; without copies there is no other such draft before
the numbers begin anew. -/
theorem slots_taken_by_value (calls : List WorkshopCall) :
    let w := Workshop.empty.performAll calls
    ∀ place d, w.drafts[place]? = some d →
      (∀ parent child, (∃ q, d.plan.link parent child = .ok q) ↔ ∃ p c, w.Owns d p ∧ w.Owns d c ∧
        p.slot = parent ∧ c.slot = child ∧ p.info.kind.accepts c.info.kind = true) ∧
      (∀ {σ : Type} (c : Client σ) (policy : FailurePolicy) (s : σ) (slot : Slot) (handle : Handle),
        (d.plan.run c policy s).1.handle? slot = some handle → w.Takes d slot) ∧
      (∀ n e, w.issued[n]? = some e → w.Takes d e.slot → n ∈ d.own ∨
        ∃ other, w.drafts[e.issuer]? = some other ∧ e.issuer ≠ place ∧
          other.origin % Plan.identities = d.origin % Plan.identities) ∧
      ((∀ draft, .copy draft ∉ calls) → w.made ≤ Plan.identities →
        ∀ n e, w.issued[n]? = some e → w.Takes d e.slot → n ∈ d.own) := by
  intro w place d hd
  have hw : w.Sound := Workshop.sound_performAll calls
  have hdraft : d.Sound w.issued := hw.drafts d (List.mem_of_getElem? hd)
  refine ⟨fun parent child => Workshop.link_iff_owns hdraft, ?_, ?_, ?_⟩
  · intro σ c policy s slot handle hhandle
    exact Workshop.takes_of_handle? hdraft hhandle
  · intro n e he htakes
    exact hw.own_or_related hd he htakes
  · intro hcalls hmade n e he htakes
    rcases hw.own_or_related hd he htakes with hown | ⟨other, hother, hplace, hsame⟩
    · exact hown
    · have horiginal : w.Original := Workshop.original_performAll hcalls
      exact absurd (horiginal.eq_of_related hmade hd hother hsame) hplace

/-- A plan and a copy of it; the plan gives out a slot for a catalog after that, and the copy one for
a contract and one for a rule. -/
def Workshop.ofCopies : List WorkshopCall :=
  [.new, .copy 0, .create 0 "catalog" .catalog (.object []),
    .create 1 "contract" .contract (.object []), .create 1 "rule" .rule (.object [])]

/-- The copy may take the catalog's slot because the plan has its number. -/
theorem slots_taken_by_value_of_copy :
    let w := Workshop.empty.performAll Workshop.ofCopies
    ∃ d e, w.drafts[1]? = some d ∧ w.issued[0]? = some e ∧ 0 ∉ d.own ∧ w.Takes d e.slot ∧
      ∃ other, w.drafts[0]? = some other ∧
        other.origin % Plan.identities = d.origin % Plan.identities := by
  intro w
  have htakes : w.Takes ⟨w.drafts[1].plan, 0, [1, 2]⟩ ⟨0, 0⟩ := by
    exact ⟨⟨1, ⟨0, 0⟩, ⟨"contract", .contract⟩⟩, ⟨1, by decide, rfl⟩, rfl⟩
  obtain ⟨-, -, hrelated, -⟩ := slots_taken_by_value Workshop.ofCopies 1 _ rfl
  rcases hrelated 0 ⟨0, ⟨0, 0⟩, ⟨"catalog", .catalog⟩⟩ rfl htakes with hown | ⟨other, hother, -, hsame⟩
  · exact absurd hown (by decide)
  · exact ⟨_, _, rfl, rfl, by decide, htakes, other, hother, hsame⟩

/-- The copy takes the catalog's slot, which it did not give out, and means its own contract by it;
the report of its run has the contract's handle in that slot. -/
theorem copy_takes_slot_of_other :
    let w := Workshop.empty.performAll Workshop.ofCopies
    ∃ d p c, w.drafts[1]? = some d ∧ w.issued[0]? = some p ∧ w.issued[2]? = some c ∧
      p.issuer = 0 ∧ p.info.kind = .catalog ∧ 0 ∉ d.own ∧
      (d.plan.link p.slot c.slot).isOk = true ∧
      ((d.plan.run (Site.counting "https://connector.test").client .failFast .empty).1.handle?
        p.slot).map Handle.kind = some .contract := by
  refine ⟨_, _, _, rfl, rfl, rfl, rfl, rfl, ?_, ?_, ?_⟩
  · decide
  · decide +kernel
  · decide +kernel

end Dataspace
