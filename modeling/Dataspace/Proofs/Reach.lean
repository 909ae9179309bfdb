/-
The stores that an in-memory connector can come to have, and what holds in all
of them.

A connector starts empty.  Requests of any form reach it, data is set for
artifacts, kinds are made to fail.  `Store.Sound` is the invariant on which
listings and descriptions rely: entities are kept under the URI of their kind
and a UUID that was taken, links join stored entities whose kinds go together,
agreements name stored targets, and events are complete.  Each kind of change
keeps it, so one step does, so every sequence of steps does.
-/
import Dataspace.Proofs.Address
import Dataspace.Proofs.Keyed
import Dataspace.Proofs.Serving

namespace Dataspace

open Text

/-! ## Operations and reachable stores -/

/-- What can be done to an in-memory connector. -/
inductive Operation where
  | request (r : Request)
  | setArtifactData (artifact : String) (data : Bytes)
  | failCreates (kind : EntityKind)

namespace Site

/-- The store after one operation. -/
def perform (site : Site) (s : Store) : Operation → Store
  | .request r => (site.answer r s).2
  | .setArtifactData artifact data => s.setArtifactData artifact data
  | .failCreates kind => s.failCreates kind

/-- The store after a sequence of operations. -/
def performAll (site : Site) (s : Store) (ops : List Operation) : Store :=
  ops.foldl site.perform s

/-- The store is that of a connector that was new once. -/
def Reachable (site : Site) (s : Store) : Prop :=
  ∃ ops, site.performAll .empty ops = s

/-- No UUID occurs twice among the first so many. -/
def Unrepeated (site : Site) (count : Nat) : Prop :=
  ∀ n < count, ∀ m < n, site.uuids m ≠ site.uuids n

theorem Unrepeated.mono {site : Site} {m n : Nat} (h : site.Unrepeated n) (hmn : m ≤ n) :
    site.Unrepeated m :=
  fun i hi => h i (Nat.lt_of_lt_of_le hi hmn)

/-- The site whose UUIDs are the numbers from zero on. -/
def counting (baseUrl : String) : Site :=
  ⟨baseUrl, fun n => ⟨BitVec.ofNat 128 n⟩⟩

theorem counting_unrepeated {baseUrl : String} {count : Nat} (h : count ≤ Nat.pow 2 128) :
    (counting baseUrl).Unrepeated count := by
  intro n hn m hm heq
  have hbits : BitVec.ofNat 128 m = BitVec.ofNat 128 n := congrArg Uuid.bits heq
  have hmod : m % Nat.pow 2 128 = n % Nat.pow 2 128 := congrArg BitVec.toNat hbits
  rw [Nat.mod_eq_of_lt (by omega), Nat.mod_eq_of_lt (by omega)] at hmod
  exact absurd hmod (Nat.ne_of_lt hm)

end Site

/-! ## The invariant -/

/-- What a connector maintains. -/
structure Store.Sound (site : Site) (s : Store) : Prop where
  ascending : Keyed.Ascending s.entities
  addressed : ∀ p ∈ s.entities, ∃ n < s.issued,
    p.1 = Route.entityUri site.baseUrl p.2.kind.collection (site.uuids n).text
  objects : ∀ p ∈ s.entities, p.2.fields.isObject = true
  linked : ∀ l ∈ s.links, ∃ parent child, s.kindOf? l.1 = some parent ∧
    s.kindOf? l.2 = some child ∧ parent.accepts child = true
  linkedOnce : s.links.Nodup
  targeted : ∀ a ∈ s.agreements, ∃ policy target, a.get? "ids:permission" = some (.arr [policy]) ∧
    policy.get? "ids:target" = some (.str target) ∧ (s.entity? target).isSome
  complete : ∀ e ∈ s.events, Site.eventFault? e = none

namespace Store

variable {site : Site} {s : Store}

theorem sound_empty (site : Site) : Store.empty.Sound site where
  ascending := List.Pairwise.nil
  addressed := List.forall_mem_nil _
  objects := List.forall_mem_nil _
  linked := List.forall_mem_nil _
  linkedOnce := List.nodup_nil
  targeted := List.forall_mem_nil _
  complete := List.forall_mem_nil _

theorem mem_of_entity? {uri : String} {e : Entity} (h : s.entity? uri = some e) :
    (uri, e) ∈ s.entities :=
  Keyed.mem_of_lookup h

theorem entity?_of_kindOf? {uri : String} {kind : EntityKind} (h : s.kindOf? uri = some kind) :
    ∃ e, s.entity? uri = some e ∧ e.kind = kind :=
  Option.map_eq_some_iff.mp h

/-! ## Creating an entity

The new URI shows its kind, so even if it were in use already, only an entity of
the same kind could be replaced: no kind and no look-up that succeeded is lost. -/

section Create

variable {kind : EntityKind} {fields : Json}

/-- The store with a new entity of a kind. -/
def created (site : Site) (s : Store) (kind : EntityKind) (fields : Json) : Store :=
  s.takeUuid.addEntity (site.nextUri kind.collection s) ⟨kind, fields⟩

theorem entity?_created (uri : String) :
    (s.created site kind fields).entity? uri
      = if uri = site.nextUri kind.collection s then some ⟨kind, fields⟩ else s.entity? uri :=
  Keyed.lookup_insert _ _ _ _

theorem isSome_entity?_created {uri : String} (h : (s.entity? uri).isSome) :
    ((s.created site kind fields).entity? uri).isSome := by
  rw [entity?_created]
  split
  · rfl
  · exact h

theorem kindOf?_created (hs : s.Sound site) {uri : String} {k : EntityKind}
    (h : s.kindOf? uri = some k) : (s.created site kind fields).kindOf? uri = some k := by
  obtain ⟨e, he, rfl⟩ := entity?_of_kindOf? h
  rw [kindOf?, entity?_created]
  split
  · rename_i huri
    obtain ⟨n, -, hn⟩ := hs.addressed _ (mem_of_entity? he)
    have hkind : e.kind = kind := (Route.entityUri_injective (hn.symm.trans huri)).1
    exact congrArg some hkind.symm
  · simp [he]

theorem sound_created (hs : s.Sound site) (hfields : fields.isObject = true) :
    (s.created site kind fields).Sound site where
  ascending := Keyed.ascending_insert hs.ascending
  addressed := by
    intro p hp
    rcases Keyed.mem_insert hp with rfl | hp
    · exact ⟨s.issued, Nat.lt_succ_self _, rfl⟩
    · obtain ⟨n, hn, huri⟩ := hs.addressed p hp
      exact ⟨n, Nat.lt_succ_of_lt hn, huri⟩
  objects := by
    intro p hp
    rcases Keyed.mem_insert hp with rfl | hp
    · exact hfields
    · exact hs.objects p hp
  linked := by
    intro l hl
    obtain ⟨parent, child, hparent, hchild, haccepts⟩ := hs.linked l hl
    exact ⟨parent, child, kindOf?_created hs hparent, kindOf?_created hs hchild, haccepts⟩
  linkedOnce := hs.linkedOnce
  targeted := by
    intro a ha
    obtain ⟨policy, target, hpolicy, htarget, hstored⟩ := hs.targeted a ha
    exact ⟨policy, target, hpolicy, htarget, isSome_entity?_created hstored⟩
  complete := hs.complete

end Create

/-! ## The other changes -/

theorem sound_addLinks (hs : s.Sound site) {parent : String} {kind child : EntityKind}
    {uris : List String} (hparent : s.kindOf? parent = some kind)
    (haccepts : kind.accepts child = true) (huris : ∀ uri ∈ uris, s.kindOf? uri = some child) :
    (s.addLinks parent uris).Sound site := by
  obtain ⟨added, heq, hsub, hnodup⟩ := addLinks_eq parent uris s
  rw [heq]
  refine { hs with linked := ?_, linkedOnce := hnodup hs.linkedOnce }
  intro l hl
  rcases List.mem_append.mp hl with hl | hl
  · exact hs.linked l hl
  · obtain ⟨uri, huri, rfl⟩ := List.mem_map.mp hl
    exact ⟨kind, child, hparent, huris uri (hsub uri huri), haccepts⟩

theorem sound_agree (hs : s.Sound site) {policy agreement : Json} {target : String}
    (hpolicy : agreement.get? "ids:permission" = some (.arr [policy]))
    (htarget : policy.get? "ids:target" = some (.str target))
    (hstored : (s.entity? target).isSome) :
    Sound site { s.takeUuid with agreements := s.agreements ++ [agreement] } where
  ascending := hs.ascending
  addressed := by
    intro p hp
    obtain ⟨n, hn, huri⟩ := hs.addressed p hp
    exact ⟨n, Nat.lt_succ_of_lt hn, huri⟩
  objects := hs.objects
  linked := hs.linked
  linkedOnce := hs.linkedOnce
  targeted := by
    intro a ha
    rcases List.mem_append.mp ha with ha | ha
    · exact hs.targeted a ha
    · rw [List.mem_singleton.mp ha]
      exact ⟨policy, target, hpolicy, htarget, hstored⟩
  complete := hs.complete

theorem sound_record (hs : s.Sound site) {event : Json} (h : Site.eventFault? event = none) :
    Sound site { s with events := s.events ++ [event] } := by
  refine { hs with complete := ?_ }
  intro e he
  rcases List.mem_append.mp he with he | he
  · exact hs.complete e he
  · rw [List.mem_singleton.mp he]
    exact h

end Store

/-! ## One step and all steps -/

variable {site : Site} {s : Store}

theorem Served.sound {r : Request} {route : Route} {response : Response} {next : Store}
    (h : Served site r s route response next) (hs : s.Sound site) : next.Sound site := by
  cases h with
  | read _ _ => exact hs
  | created _ _ _ _ => exact Store.sound_created hs rfl
  | linked hparent haccepts _ huris _ => exact Store.sound_addLinks hs hparent haccepts huris
  | agreed _ _ _ hartifact _ htarget hpolicy _ =>
      exact Store.sound_agree hs hpolicy htarget hartifact
  | recorded _ hfault _ => exact Store.sound_record hs hfault

/-- What answers a request leaves the store as it is or serves the request. -/
theorem Site.answer_cases (site : Site) (r : Request) (s : Store) :
    (∃ refusal : Refusal, site.answer r s = (refusal.response, s)) ∨
      ∃ route response next, site.answer r s = (response, next) ∧
        Route.find site.baseUrl r.method r.url = .ok route ∧
        Served site r s route response next := by
  cases h : site.reply r s with
  | error refusal => exact Or.inl ⟨refusal, by rw [answer, h]⟩
  | ok result =>
      obtain ⟨response, next⟩ := result
      obtain ⟨route, hroute, hserved⟩ := reply_served h
      exact Or.inr ⟨route, response, next, by rw [answer, h], hroute, hserved⟩

theorem Site.sound_perform (hs : s.Sound site) (op : Operation) :
    (site.perform s op).Sound site := by
  cases op with
  | request r =>
      rcases site.answer_cases r s with ⟨refusal, heq⟩ | ⟨route, response, next, heq, -, hserved⟩
      · rw [perform, heq]
        exact hs
      · rw [perform, heq]
        exact hserved.sound hs
  | setArtifactData artifact data => exact { hs with }
  | failCreates kind => exact { hs with }

theorem Site.sound_performAll (ops : List Operation) (hs : s.Sound site) :
    (site.performAll s ops).Sound site := by
  induction ops generalizing s with
  | nil => exact hs
  | cons op ops ih => exact ih (sound_perform hs op)

theorem Site.Reachable.sound (h : site.Reachable s) : s.Sound site := by
  obtain ⟨ops, rfl⟩ := h
  exact sound_performAll ops (Store.sound_empty site)

/-- Whatever is asked of a connector, in whatever form, and whatever data is set and kinds are made
to fail meanwhile: its entities are objects under the URI of their kind and a UUID, its links join
stored entities whose kinds go together and are made once, each agreement carries one permission,
whose target is stored, and each recorded event is complete. -/
theorem performAll_empty_wellFormed (site : Site) (ops : List Operation) :
    let s := site.performAll .empty ops
    (∀ uri entity, (uri, entity) ∈ s.entities →
      entity.fields.isObject = true ∧
      ∃ n < s.issued,
        uri = Route.entityUri site.baseUrl entity.kind.collection (site.uuids n).text) ∧
    (∀ parent child, (parent, child) ∈ s.links →
      ∃ p c, s.kindOf? parent = some p ∧ s.kindOf? child = some c ∧ p.accepts c = true) ∧
    s.links.Nodup ∧
    (∀ agreement ∈ s.agreements, ∃ policy target,
      agreement.get? "ids:permission" = some (.arr [policy]) ∧
      policy.get? "ids:target" = some (.str target) ∧ (s.entity? target).isSome) ∧
    ∀ event ∈ s.events, Site.eventFault? event = none := by
  have hs := Site.sound_performAll ops (Store.sound_empty site)
  refine ⟨?_, ?_, hs.linkedOnce, hs.targeted, hs.complete⟩
  · intro uri entity h
    exact ⟨hs.objects _ h, hs.addressed _ h⟩
  · intro parent child h
    exact hs.linked _ h

end Dataspace
