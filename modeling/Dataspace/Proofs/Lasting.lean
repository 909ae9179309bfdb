/-
What a connector keeps for good.

Nothing that was answered with a success is taken back.  Links, agreements and events
are only added, at the end.  A new entity takes no other's place, because its URI is
built from a UUID that was not taken before.  What is served for an artifact is the data
that was set last for it, or else its value.  So an entity is found under its URI with
the fields it was created with, whatever was asked of the connector since.
-/
import Dataspace.Proofs.Frame

namespace Dataspace

open Text

variable {site : Site} {s t u next : Store} {r : Request} {route : Route} {response : Response}
  {uri : String}

/-! ## Stores that grow -/

/-- The links, agreements and events of one store are the first ones of another, which has taken
at least as many UUIDs. -/
structure Store.Extends (s t : Store) : Prop where
  links : s.links <+: t.links
  agreements : s.agreements <+: t.agreements
  events : s.events <+: t.events
  issued : s.issued ≤ t.issued

theorem Store.Extends.refl (s : Store) : s.Extends s :=
  ⟨List.prefix_refl _, List.prefix_refl _, List.prefix_refl _, Nat.le_refl _⟩

theorem Store.Extends.trans (h : s.Extends t) (k : t.Extends u) : s.Extends u :=
  ⟨h.links.trans k.links, h.agreements.trans k.agreements, h.events.trans k.events,
    Nat.le_trans h.issued k.issued⟩

theorem Served.extends (h : Served site r s route response next) : s.Extends next := by
  cases h with
  | read _ _ => exact .refl s
  | created _ _ _ _ => exact { Store.Extends.refl s with issued := Nat.le_succ _ }
  | @linked parent _ _ uris _ _ _ _ _ _ =>
      obtain ⟨added, heq, -, -⟩ := Store.addLinks_eq parent uris s
      rw [heq]
      exact { Store.Extends.refl s with links := List.prefix_append _ _ }
  | agreed _ _ _ _ _ _ _ _ =>
      exact { Store.Extends.refl s with
        agreements := List.prefix_append _ _, issued := Nat.le_succ _ }
  | recorded _ _ _ => exact { Store.Extends.refl s with events := List.prefix_append _ _ }

theorem Site.extends_perform (site : Site) (s : Store) (op : Operation) :
    s.Extends (site.perform s op) := by
  cases op with
  | request r =>
      rcases site.answer_cases r s with ⟨refusal, heq⟩ | ⟨route, response, next, heq, -, hserved⟩
      · rw [perform, heq]
        exact .refl s
      · rw [perform, heq]
        exact hserved.extends
  | setArtifactData artifact data => exact { Store.Extends.refl s with }
  | failCreates kind => exact { Store.Extends.refl s with }

theorem Site.extends_performAll (site : Site) (s : Store) (ops : List Operation) :
    s.Extends (site.performAll s ops) := by
  induction ops generalizing s with
  | nil => exact .refl s
  | cons op ops ih => exact (site.extends_perform s op).trans (ih _)

theorem Site.performAll_append (site : Site) (s : Store) (ops more : List Operation) :
    site.performAll s (ops ++ more) = site.performAll (site.performAll s ops) more :=
  List.foldl_append

/-! ## Entities -/

theorem Served.entity?_of_some (h : Served site r s route response next) (hs : s.Sound site)
    (hu : site.Unrepeated next.issued) {e : Entity} (he : s.entity? uri = some e) :
    next.entity? uri = some e := by
  cases h with
  | read _ _ => exact he
  | @created kind members _ _ _ _ _ =>
      -- the new URI is not in use, so it is not this one
      have hnew := Store.entity?_nextUri hs hu kind
      have hne : uri ≠ site.nextUri kind.collection s := by
        intro heq
        rw [heq, hnew] at he
        cases he
      exact (Store.entity?_created uri).trans ((if_neg hne).trans he)
  | @linked parent _ _ uris _ _ _ _ _ _ =>
      obtain ⟨added, heq, -, -⟩ := Store.addLinks_eq parent uris s
      rw [heq]
      exact he
  | agreed _ _ _ _ _ _ _ _ => exact he
  | recorded _ _ _ => exact he

theorem Site.entity?_perform (hs : s.Sound site) (op : Operation)
    (hu : site.Unrepeated (site.perform s op).issued) {e : Entity}
    (he : s.entity? uri = some e) : (site.perform s op).entity? uri = some e := by
  cases op with
  | request r =>
      rw [perform] at hu ⊢
      rcases site.answer_cases r s with ⟨refusal, heq⟩ | ⟨route, response, next, heq, -, hserved⟩
      · rw [heq]
        exact he
      · rw [heq] at hu ⊢
        exact hserved.entity?_of_some hs hu he
  | setArtifactData artifact data => exact he
  | failCreates kind => exact he

/-- As long as no UUID comes twice, no entity is lost or changed. -/
theorem Site.entity?_performAll (hs : s.Sound site) (ops : List Operation)
    (hu : site.Unrepeated (site.performAll s ops).issued) {e : Entity}
    (he : s.entity? uri = some e) : (site.performAll s ops).entity? uri = some e := by
  induction ops generalizing s with
  | nil => exact he
  | cons op ops ih =>
      have hfirst := hu.mono (site.extends_performAll (site.perform s op) ops).issued
      exact ih (sound_perform hs op) hu (entity?_perform hs op hfirst he)

/-! ## The data of artifacts -/

/-- The data that an operation sets for an artifact. -/
def Operation.data? (artifact : String) : Operation → Option Bytes
  | .setArtifactData other data => if other = artifact then some data else none
  | .request _ | .failCreates _ => none

/-- The data that was set last for an artifact. -/
def Operation.lastData? (artifact : String) (ops : List Operation) : Option Bytes :=
  (ops.filterMap (data? artifact)).getLast?

theorem Operation.lastData?_cons (artifact : String) (op : Operation) (ops : List Operation) :
    lastData? artifact (op :: ops) = (lastData? artifact ops).or (op.data? artifact) := by
  unfold lastData?
  cases hop : op.data? artifact with
  | none => rw [List.filterMap_cons_none hop, Option.or_none]
  | some data =>
      rw [List.filterMap_cons_some hop, List.getLast?_cons]
      cases (ops.filterMap (data? artifact)).getLast? <;> rfl

theorem Served.artifactData (h : Served site r s route response next) :
    next.artifactData = s.artifactData := by
  cases h with
  | @linked parent _ _ uris _ _ _ _ _ _ =>
      obtain ⟨added, heq, -, -⟩ := Store.addLinks_eq parent uris s
      rw [heq]
  | read _ _ | created _ _ _ _ | agreed _ _ _ _ _ _ _ _ | recorded _ _ _ => rfl

theorem Site.lookup_perform (site : Site) (s : Store) (op : Operation) (artifact : String) :
    Keyed.lookup artifact (site.perform s op).artifactData
      = (op.data? artifact).or (Keyed.lookup artifact s.artifactData) := by
  cases op with
  | request r =>
      rcases site.answer_cases r s with ⟨refusal, heq⟩ | ⟨route, response, next, heq, -, hserved⟩
      · rw [perform, heq]
        rfl
      · rw [perform, heq, hserved.artifactData]
        rfl
  | setArtifactData other data =>
      rw [perform, Store.setArtifactData, Keyed.lookup_insert, Operation.data?]
      by_cases hother : other = artifact
      · rw [if_pos hother, if_pos hother.symm]
        rfl
      · rw [if_neg hother, if_neg (Ne.symm hother)]
        rfl
  | failCreates kind => rfl

theorem Site.lookup_performAll (site : Site) (s : Store) (ops : List Operation)
    (artifact : String) :
    Keyed.lookup artifact (site.performAll s ops).artifactData
      = (Operation.lastData? artifact ops).or (Keyed.lookup artifact s.artifactData) := by
  induction ops generalizing s with
  | nil => rfl
  | cons op ops ih =>
      rw [Operation.lastData?_cons, Option.or_assoc, ← site.lookup_perform]
      exact ih _

/-! ## Reading back -/

section Reading

variable {id : String} {kind : EntityKind} {e : Entity}

theorem Route.find_entity (base : String) (kind : EntityKind) (hid : IsId id) :
    find base .get (entityUri base kind.collection id)
      = .ok (.entity (entityUri base kind.collection id)) := by
  rw [find, entityUri_eq, segments?_pair kind.slash_not_mem_collection hid.no_slash hid.ne_nil,
    ← entityUri_eq]
  rfl

theorem Route.find_data (base : String) (hid : IsId id) :
    find base .get (entityUri base "artifacts" id ++ "/data")
      = .ok (.data (entityUri base "artifacts" id)) := by
  have hurl : entityUri base "artifacts" id ++ "/data" = base ++ ("/api/" ++
      ("artifacts" ++ String.singleton '/' ++ id ++ String.singleton '/' ++ "data")) := by
    have hslash : String.singleton '/' = "/" := by decide +kernel
    simp [entityUri_eq, hslash, String.append_assoc]
  rw [find, hurl, segments?_triple (by decide) hid.no_slash (by decide) (by decide)]
  rfl

/-- An entity that is there is read with its fields. -/
theorem Site.answer_entity (hid : IsId id)
    (huri : uri = Route.entityUri site.baseUrl kind.collection id) (he : s.entity? uri = some e)
    (hget : r.method = .get) (hurl : r.url = uri) :
    site.answer r s = (⟨200, none, Utf8.encode e.fields.compact⟩, s) := by
  have hroute : Route.find site.baseUrl .get uri = .ok (.entity uri) := by
    rw [huri]
    exact Route.find_entity site.baseUrl kind hid
  have hread : site.reply r s = .ok (⟨200, none, Utf8.encode e.fields.compact⟩, s) := by
    rw [reply, hget, hurl, hroute]
    show readEntity uri s = _
    rw [readEntity, he]
    rfl
  rw [answer, hread]

/-- The data of an artifact that is there is what was set for it, or else its value. -/
theorem Site.answer_data (hid : IsId id)
    (huri : uri = Route.entityUri site.baseUrl "artifacts" id) (he : s.entity? uri = some e)
    (hget : r.method = .get) (hurl : r.url = uri ++ "/data") :
    site.answer r s = (⟨200, none, (Keyed.lookup uri s.artifactData).getD
      (Utf8.encode (Store.valueText e.fields))⟩, s) := by
  have hroute : Route.find site.baseUrl .get (uri ++ "/data") = .ok (.data uri) := by
    rw [huri]
    exact Route.find_data site.baseUrl hid
  have hdata : s.dataOf? uri = some ((Keyed.lookup uri s.artifactData).getD
      (Utf8.encode (Store.valueText e.fields))) := by
    rw [Store.dataOf?, he]
    cases Keyed.lookup uri s.artifactData <;> rfl
  have hread : site.reply r s = .ok (⟨200, none, (Keyed.lookup uri s.artifactData).getD
      (Utf8.encode (Store.valueText e.fields))⟩, s) := by
    rw [reply, hget, hurl, hroute]
    show readData uri s = _
    rw [readData, hdata]
  rw [answer, hread]

end Reading

/-! ## Entities that were created -/

theorem Refusal.status_ne_created (refusal : Refusal) : refusal.response.status ≠ 201 := by
  intro h
  have hfail := refusal.isSuccess_response
  rw [Response.isSuccess, h] at hfail
  cases hfail

/-- Only the creation of an entity is answered with the status 201. -/
theorem Site.created_of_status (hstatus : (site.answer r s).1.status = 201)
    (hlocation : (site.answer r s).1.location = some uri) :
    ∃ kind members, Route.find site.baseUrl r.method r.url = .ok (.create kind) ∧
      r.body = some (.obj members) ∧ uri = site.nextUri kind.collection s ∧
      (site.answer r s).2 = s.created site kind (.obj members) := by
  rcases site.answer_cases r s with ⟨refusal, heq⟩ | ⟨route, response, next, heq, hroute, hserved⟩
  · rw [heq] at hstatus
    exact absurd hstatus refusal.status_ne_created
  · rw [heq] at hstatus hlocation ⊢
    cases hserved with
    | @created kind members _ _ hbody _ hnew =>
        exact ⟨kind, members, hroute, hbody, Option.some.inj (hlocation.symm.trans hnew), rfl⟩
    | read _ hok => cases hstatus.symm.trans hok
    | linked _ _ _ _ hok => cases hstatus.symm.trans hok
    | agreed _ _ _ _ _ _ _ hok => cases hstatus.symm.trans hok
    | recorded _ _ hok => cases hstatus.symm.trans hok

/-- However a connector is used, its links, agreements and events are only added to, at the end.
Once a request is answered with 201 and a location, the location is that of an entity of the
requested kind and stays so; reading it gives the text of the body that was posted, and reading the
data of an artifact gives the bytes that were set last for it, or else those of the text that it has
as its value.  No UUID is taken twice meanwhile. -/
theorem created_entities_last (site : Site) :
    (∀ before after,
      let s := site.performAll .empty before
      let t := site.performAll .empty (before ++ after)
      s.links <+: t.links ∧ s.agreements <+: t.agreements ∧ s.events <+: t.events) ∧
    ∀ before r after uri fields,
      let s := site.performAll .empty before
      let ops := before ++ .request r :: after
      let t := site.performAll .empty ops
      (site.answer r s).1.status = 201 → (site.answer r s).1.location = some uri →
      r.body = some fields → site.Unrepeated t.issued →
        ∃ kind, Route.find site.baseUrl r.method r.url = .ok (.create kind) ∧
          t.kindOf? uri = some kind ∧
          (∀ q : Request, q.method = .get → q.url = uri →
            site.answer q t = (⟨200, none, Utf8.encode fields.compact⟩, t)) ∧
          (kind = .artifact → ∃ text, Store.HasValue fields text ∧
            ∀ q : Request, q.method = .get → q.url = uri ++ "/data" →
              site.answer q t = (⟨200, none, (Operation.lastData? uri ops).getD
                (Utf8.encode text)⟩, t)) := by
  constructor
  · intro before after
    have hextends := site.extends_performAll (site.performAll .empty before) after
    rw [← site.performAll_append] at hextends
    exact ⟨hextends.links, hextends.agreements, hextends.events⟩
  · intro before r after uri fields s ops t hstatus hlocation hbody hu
    obtain ⟨kind, members, hroute, hposted, huri, hnext⟩ :=
      Site.created_of_status hstatus hlocation
    cases hbody.symm.trans hposted
    have hs : s.Sound site := Site.sound_performAll before (Store.sound_empty site)
    have hrest : t = site.performAll (s.created site kind (.obj members)) after := by
      rw [← hnext]
      exact site.performAll_append .empty before (.request r :: after)
    have hthere : (s.created site kind (.obj members)).entity? uri
        = some ⟨kind, .obj members⟩ := (Store.entity?_created uri).trans (if_pos huri)
    have hkept : t.entity? uri = some ⟨kind, .obj members⟩ := by
      rw [hrest] at hu ⊢
      exact Site.entity?_performAll (Store.sound_created hs rfl) after hu hthere
    have hset : Keyed.lookup uri t.artifactData = Operation.lastData? uri ops :=
      (site.lookup_performAll .empty ops uri).trans Option.or_none
    have hid := (site.uuids s.issued).isId_text
    refine ⟨kind, hroute, congrArg (Option.map Entity.kind) hkept, ?_, ?_⟩
    · intro q hget hurl
      -- elaborated on its own, since against the goal `t` would be evaluated
      have hread := Site.answer_entity hid huri hkept hget hurl
      exact hread
    · rintro rfl
      refine ⟨_, Store.hasValue_valueText _, ?_⟩
      intro q hget hurl
      rw [Site.answer_data hid huri hkept hget hurl, hset]

/-- Two artifacts with the same value, of which the first one's data is set later. -/
theorem created_entities_last_artifact :
    let site := Site.counting "https://c"
    let r := Request.post "https://c/api/artifacts" (some (.obj [("value", .str "é")]))
    let uri := "https://c/api/artifacts/00000000-0000-0000-0000-000000000000"
    let other := "https://c/api/artifacts/00000000-0000-0000-0000-000000000001"
    let t := site.performAll .empty [.request r, .request r, .setArtifactData uri [7]]
    (site.answer r .empty).1.status = 201 ∧ (site.answer r .empty).1.location = some uri ∧
      site.Unrepeated t.issued ∧ t.kindOf? uri = some .artifact ∧
      site.answer (.get uri) t = (⟨200, none, Utf8.encode "\x7b\"value\":\"é\"\x7d"⟩, t) ∧
      site.answer (.get (uri ++ "/data")) t = (⟨200, none, [7]⟩, t) ∧
      site.answer (.get (other ++ "/data")) t = (⟨200, none, [0xC3, 0xA9]⟩, t) := by
  intro site r uri other t
  have hanswer : (site.answer r .empty).1.status = 201 ∧
      (site.answer r .empty).1.location = some uri := by decide +kernel
  have hanswer' : (site.answer r (site.performAll .empty [.request r])).1.status = 201 ∧
      (site.answer r (site.performAll .empty [.request r])).1.location = some other := by
    decide +kernel
  have hfresh : site.Unrepeated t.issued :=
    Site.counting_unrepeated (show t.issued ≤ Nat.pow 2 128 by decide +kernel)
  have hartifact : ∀ {kind : EntityKind} {found : String}, t.kindOf? found = some kind →
      t.kindOf? found = some .artifact → kind = .artifact := fun hkind hfound =>
    Option.some.inj (hkind.symm.trans hfound)
  obtain ⟨kind, -, hkind, hread, hdata⟩ := (created_entities_last site).2 [] r
    [.request r, .setArtifactData uri [7]] uri _ hanswer.1 hanswer.2 rfl hfresh
  obtain ⟨kind', -, hkind', -, hvalue⟩ := (created_entities_last site).2 [.request r] r
    [.setArtifactData uri [7]] other _ hanswer'.1 hanswer'.2 rfl hfresh
  obtain rfl := hartifact hkind (by decide +kernel)
  obtain rfl := hartifact hkind' (by decide +kernel)
  obtain ⟨_, -, hset⟩ := hdata rfl
  obtain ⟨text, htext, hunset⟩ := hvalue rfl
  obtain rfl : text = "é" := by
    rcases htext with htext | ⟨-, hnone⟩
    · exact (Json.str.inj (Option.some.inj htext)).symm
    · exact absurd rfl (hnone "é")
  exact ⟨hanswer.1, hanswer.2, hfresh, hkind, hread _ rfl rfl, hset _ rfl rfl, hunset _ rfl rfl⟩

end Dataspace
