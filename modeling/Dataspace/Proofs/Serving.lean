/-
What a request that is answered with a success does to the store.

`Served` says it once, route by route and with everything that was checked:
`reply_served` shows that nothing else can happen.  Invariants of the store and
statements about what a request leaves alone are read off its constructors; no
later proof looks at the handlers again.
-/
import Dataspace.Connector.Site
import Dataspace.Proofs.Keyed

namespace Dataspace

/-! ## Adding links -/

namespace Store

theorem addLink_of_mem {s : Store} {parent child : String} (h : (parent, child) ∈ s.links) :
    s.addLink parent child = s :=
  if_pos h

theorem addLink_of_not_mem {s : Store} {parent child : String} (h : (parent, child) ∉ s.links) :
    s.addLink parent child = { s with links := s.links ++ [(parent, child)] } :=
  if_neg h

/-- Links from one parent are put at the end, those that are there already left out. -/
theorem addLinks_eq (parent : String) : ∀ (children : List String) (s : Store),
    ∃ added : List String,
      s.addLinks parent children = { s with links := s.links ++ added.map (parent, ·) } ∧
      (∀ child ∈ added, child ∈ children) ∧
      (s.links.Nodup → (s.links ++ added.map (parent, ·)).Nodup)
  | [], s => ⟨[], by simp [addLinks], List.forall_mem_nil _, fun h => by simpa⟩
  | child :: rest, s => by
      by_cases hin : (parent, child) ∈ s.links
      · obtain ⟨added, heq, hsub, hnodup⟩ := addLinks_eq parent rest s
        refine ⟨added, ?_, ?_, hnodup⟩
        · rw [← heq, addLinks, List.foldl_cons, addLink_of_mem hin]
          rfl
        · intro c hc
          exact List.mem_cons_of_mem _ (hsub c hc)
      · obtain ⟨added, heq, hsub, hnodup⟩ :=
          addLinks_eq parent rest { s with links := s.links ++ [(parent, child)] }
        refine ⟨child :: added, ?_, ?_, ?_⟩
        · rw [addLinks, List.foldl_cons, addLink_of_not_mem hin]
          exact heq.trans (by simp)
        · intro c hc
          rcases List.mem_cons.mp hc with rfl | hc
          · exact List.mem_cons_self
          · exact List.mem_cons_of_mem _ (hsub c hc)
        · intro hs
          have hone : (s.links ++ [(parent, child)]).Nodup := by
            refine List.nodup_append.mpr ⟨hs, by simp, ?_⟩
            intro a ha b hb e
            refine hin ?_
            rw [← List.mem_singleton.mp hb, ← e]
            exact ha
          simpa using hnodup hone

end Store

/-! ## Members of values -/

theorem Json.get?_object (key : String) (members : List (String × Json)) :
    (object members).get? key = Keyed.lookup key members.reverse :=
  Keyed.lookup_ofList key members

theorem Json.bind_asString?_eq_some_iff {member : Option Json} {text : String} :
    member.bind asString? = some text ↔ member = some (.str text) := by
  rcases member with _ | v
  · simp
  · cases v <;> simp [asString?]

namespace Store

/-- The text under `value`, which is empty if there is none or if it is not a text. -/
def HasValue (fields : Json) (text : String) : Prop :=
  fields.get? "value" = some (.str text) ∨
    text = "" ∧ ∀ other, fields.get? "value" ≠ some (.str other)

theorem hasValue_valueText (fields : Json) : HasValue fields (valueText fields) := by
  cases hvalue : (fields.get? "value").bind Json.asString? with
  | some text =>
      have htext : valueText fields = text := by rw [valueText, hvalue]; rfl
      rw [htext]
      exact Or.inl (Json.bind_asString?_eq_some_iff.mp hvalue)
  | none =>
      have htext : valueText fields = "" := by rw [valueText, hvalue]; rfl
      refine Or.inr ⟨htext, ?_⟩
      intro other hother
      cases hvalue.symm.trans (Json.bind_asString?_eq_some_iff.mpr hother)

end Store

/-! ## Successes, route by route -/

/-- The route only reads. -/
def Route.isReading : Route → Bool
  | .describe | .entity _ | .data _ | .children .. => true
  | _ => false

open Site in
/-- A success on a route: the request it answers, the response, and the next store. -/
inductive Served (site : Site) (r : Request) (s : Store) : Route → Response → Store → Prop where
  | read {route : Route} {response : Response} : route.isReading = true →
      response.status = 200 → Served site r s route response s
  | created {kind : EntityKind} {members : List (String × Json)} {response : Response} :
      kind ∉ s.failing → r.body = some (.obj members) → response.status = 201 →
      response.location = some (site.nextUri kind.collection s) →
      Served site r s (.create kind) response
        (s.takeUuid.addEntity (site.nextUri kind.collection s) ⟨kind, .obj members⟩)
  | linked {parent : String} {kind child : EntityKind} {uris : List String} {response : Response} :
      s.kindOf? parent = some kind → kind.accepts child = true → r.body = some (.texts uris) →
      (∀ uri ∈ uris, s.kindOf? uri = some child) → response.status = 200 →
      Served site r s (.link parent child) response (s.addLinks parent uris)
  | agreed {resource artifact : String} {policy agreement : Json} {rest : List Json}
      {response : Response} :
      r.parameter? "resourceIds" = some resource → r.parameter? "artifactIds" = some artifact →
      (s.entity? resource).isSome → (s.entity? artifact).isSome →
      r.body = some (.arr (policy :: rest)) → policy.get? "ids:target" = some (.str artifact) →
      agreement.get? "ids:permission" = some (.arr [policy]) → response.status = 200 →
      Served site r s .contract response
        { s.takeUuid with agreements := s.agreements ++ [agreement] }
  | recorded {event : Json} {response : Response} : r.body = some event →
      eventFault? event = none → response.status = 200 →
      Served site r s .webhook response { s with events := s.events ++ [event] }

/-! ## Every success is one of these -/

namespace Site

variable {site : Site} {r : Request} {s next : Store} {response : Response}

theorem unchanged_ok {v : Json} (h : unchanged s v = .ok (response, next)) :
    response.status = 200 ∧ next = s := by
  simp only [unchanged, Except.ok.injEq, Prod.mk.injEq] at h
  exact ⟨h.1 ▸ rfl, h.2.symm⟩

theorem create_served {kind : EntityKind}
    (h : site.create kind r.body s = .ok (response, next)) :
    Served site r s (.create kind) response next := by
  unfold create at h
  split at h
  · exact absurd h (by simp)
  · rename_i hkind
    split at h
    · rename_i members hbody
      simp only [Except.ok.injEq, Prod.mk.injEq] at h
      obtain ⟨rfl, rfl⟩ := h
      exact .created hkind hbody rfl rfl
    · exact absurd h (by simp)

theorem childUri_ok {kind : EntityKind} {item : Json} {uri : String}
    (h : childUri s kind item = .ok uri) : item = .str uri ∧ s.kindOf? uri = some kind := by
  unfold childUri at h
  split at h
  · split at h
    · rename_i found hfound
      split at h
      · rename_i hkind
        cases h
        exact ⟨rfl, hkind ▸ hfound⟩
      · exact absurd h (by simp)
    · exact absurd h (by simp)
  · exact absurd h (by simp)

/-- The items of a link request are all read, or the request is refused. -/
theorem mapM_childUri_ok {kind : EntityKind} : ∀ {items : List Json} {uris : List String},
    items.mapM (childUri s kind) = .ok uris →
      items = uris.map .str ∧ ∀ uri ∈ uris, s.kindOf? uri = some kind
  | [], uris, h => by
      cases h
      exact ⟨rfl, List.forall_mem_nil _⟩
  | item :: rest, uris, h => by
      rw [List.mapM_cons] at h
      cases hitem : childUri s kind item with
      | error e => simp [hitem, bind, Except.bind] at h
      | ok uri =>
          cases hrest : rest.mapM (childUri s kind) with
          | error e => simp [hitem, hrest, bind, Except.bind] at h
          | ok more =>
              simp only [hitem, hrest, bind, Except.bind, pure, Except.pure, Except.ok.injEq] at h
              subst h
              obtain ⟨rfl, huri⟩ := childUri_ok hitem
              obtain ⟨rfl, hmore⟩ := mapM_childUri_ok hrest
              refine ⟨rfl, ?_⟩
              intro u hu
              rcases List.mem_cons.mp hu with rfl | hu
              · exact huri
              · exact hmore u hu

theorem link_served {parent : String} {child : EntityKind}
    (h : link parent child r.body s = .ok (response, next)) :
    Served site r s (.link parent child) response next := by
  unfold link at h
  split at h
  · exact absurd h (by simp)
  · rename_i kind hparent
    split at h
    · rename_i haccepts
      split at h
      · rename_i items hbody
        cases huris : items.mapM (childUri s child) with
        | error e => simp [huris, bind, Except.bind] at h
        | ok uris =>
            simp only [huris, bind, Except.bind] at h
            obtain ⟨hstatus, rfl⟩ := unchanged_ok h
            obtain ⟨rfl, hkinds⟩ := mapM_childUri_ok huris
            exact .linked hparent haccepts hbody hkinds hstatus
      · exact absurd h (by simp)
    · exact absurd h (by simp)

theorem describe_served (h : site.describe (r.parameter? "elementId") s = .ok (response, next)) :
    Served site r s .describe response next := by
  unfold describe at h
  split at h
  · obtain ⟨hstatus, rfl⟩ := unchanged_ok h
    exact .read rfl hstatus
  · split at h
    · obtain ⟨hstatus, rfl⟩ := unchanged_ok h
      exact .read rfl hstatus
    · exact absurd h (by simp)

theorem requestedPolicy_ok {artifact : String} {body : Option Json} {policy : Json}
    (h : requestedPolicy artifact body = .ok policy) :
    ∃ rest, body = some (.arr (policy :: rest)) ∧
      policy.get? "ids:target" = some (.str artifact) := by
  unfold requestedPolicy at h
  split at h
  · split at h
    · rename_i rest htarget
      cases h
      exact ⟨rest, rfl, Json.bind_asString?_eq_some_iff.mp htarget⟩
    · exact absurd h (by simp)
  · exact absurd h (by simp)

theorem contract_served (h : site.contract r s = .ok (response, next)) :
    Served site r s .contract response next := by
  unfold contract at h
  split at h
  · rename_i resource artifact hresources hartifacts
    split at h
    · exact absurd h (by simp)
    · rename_i hresource
      split at h
      · exact absurd h (by simp)
      · rename_i hartifact
        cases hpolicy : requestedPolicy artifact r.body with
        | error e => simp [hpolicy, bind, Except.bind] at h
        | ok policy =>
            simp only [hpolicy, bind, Except.bind] at h
            obtain ⟨hstatus, rfl⟩ := unchanged_ok h
            obtain ⟨rest, hbody, htarget⟩ := requestedPolicy_ok hpolicy
            exact .agreed hresources hartifacts
              (by simpa [Option.isSome_iff_ne_none] using hresource)
              (by simpa [Option.isSome_iff_ne_none] using hartifact)
              hbody htarget (Keyed.lookup_insert_self ..) hstatus
  · exact absurd h (by simp)

theorem webhook_served (h : webhook r.body s = .ok (response, next)) :
    Served site r s .webhook response next := by
  unfold webhook at h
  split at h
  · exact absurd h (by simp)
  · rename_i event hbody
    split at h
    · exact absurd h (by simp)
    · rename_i hfault
      obtain ⟨hstatus, rfl⟩ := unchanged_ok h
      exact .recorded hbody hfault hstatus

theorem readEntity_served {uri : String} (h : readEntity uri s = .ok (response, next)) :
    Served site r s (.entity uri) response next := by
  unfold readEntity at h
  split at h
  · obtain ⟨hstatus, rfl⟩ := unchanged_ok h
    exact .read rfl hstatus
  · exact absurd h (by simp)

theorem readData_served {artifact : String} (h : readData artifact s = .ok (response, next)) :
    Served site r s (.data artifact) response next := by
  unfold readData at h
  split at h
  · simp only [Except.ok.injEq, Prod.mk.injEq] at h
    obtain ⟨rfl, rfl⟩ := h
    exact .read rfl rfl
  · exact absurd h (by simp)

theorem readChildren_served {parent : String} {kind : EntityKind}
    (h : readChildren parent kind s = .ok (response, next)) :
    Served site r s (.children parent kind) response next := by
  unfold readChildren at h
  split at h
  · obtain ⟨hstatus, rfl⟩ := unchanged_ok h
    exact .read rfl hstatus
  · exact absurd h (by simp)

/-- A success has a route, and is what that route allows. -/
theorem reply_served (h : site.reply r s = .ok (response, next)) :
    ∃ route, Route.find site.baseUrl r.method r.url = .ok route ∧
      Served site r s route response next := by
  unfold reply at h
  cases hroute : Route.find site.baseUrl r.method r.url with
  | error e => simp [hroute, Except.bind] at h
  | ok route =>
      simp only [hroute, Except.bind] at h
      refine ⟨route, rfl, ?_⟩
      cases route with
      | describe => exact describe_served h
      | contract => exact contract_served h
      | webhook => exact webhook_served h
      | create kind => exact create_served h
      | link parent child => exact link_served h
      | entity uri => exact readEntity_served h
      | data artifact => exact readData_served h
      | children parent kind => exact readChildren_served h

end Site

end Dataspace
