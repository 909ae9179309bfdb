/-
What a request leaves alone.

A refusal leaves the whole store as it is, whichever check found the fault.  A
success changes the part of the store that its route owns and nothing else;
`Site.Effect` says which part and how.  That a new entity replaces none rests on
the UUIDs: as long as none comes twice, the URI that is built from the next one
is not in use.
-/
import Dataspace.Proofs.Reach

namespace Dataspace

/-! ## New URIs -/

variable {site : Site} {s next : Store} {r : Request} {response : Response}

/-- The URI built from the next UUID is not in use. -/
theorem Store.entity?_nextUri (hs : s.Sound site) (hu : site.Unrepeated (s.issued + 1))
    (kind : EntityKind) : s.entity? (site.nextUri kind.collection s) = none := by
  cases he : s.entity? (site.nextUri kind.collection s) with
  | none => rfl
  | some e =>
      obtain ⟨n, hn, huri⟩ := hs.addressed _ (mem_of_entity? he)
      have hid : site.uuids s.issued = site.uuids n :=
        Uuid.text_injective (Route.entityUri_injective huri).2
      exact absurd hid.symm (hu s.issued (Nat.lt_succ_self _) n hn)

/-! ## Reads -/

theorem Route.isReading_of_ofGet {base : String} : ∀ {segments : List String} {route : Route},
    Route.ofGet base segments = .ok route → route.isReading = true := by
  intro segments route h
  unfold ofGet at h
  split at h
  · cases h; rfl
  · cases h; rfl
  · split at h
    · cases h; rfl
    · cases h
  · cases h

/-- A read request finds no route on which anything could change. -/
theorem Route.isReading_of_find_get {base url : String} {route : Route}
    (h : Route.find base .get url = .ok route) : route.isReading = true := by
  unfold find at h
  split at h
  · cases h
  · exact isReading_of_ofGet h

theorem Served.eq_of_isReading {route : Route} (h : Served site r s route response next)
    (hroute : route.isReading = true) : next = s := by
  cases h with
  | read _ _ => rfl
  | created _ _ _ _ | linked _ _ _ _ _ | agreed _ _ _ _ _ _ _ _ | recorded _ _ _ =>
      exact absurd hroute (by simp [Route.isReading])

theorem Served.isSuccess {route : Route} (h : Served site r s route response next) :
    response.isSuccess = true := by
  cases h <;> simp [Response.isSuccess, *]

/-! ## Successes -/

/-- What a success on a route does: the entity, the links, the agreement or the event
that is added, and that everything else stays. -/
def Site.Effect (r : Request) (response : Response) (s next : Store) : Route → Prop
  | .create kind =>
      ∃ uri members, r.body = some (.obj members) ∧
        response.status = 201 ∧ response.location = some uri ∧ s.entity? uri = none ∧
        next.entities.Perm ((uri, ⟨kind, .obj members⟩) :: s.entities) ∧
        next = { s with entities := next.entities, issued := s.issued + 1 }
  | .link parent _ =>
      ∃ listed added : List String, r.body = some (.texts listed) ∧ (∀ uri ∈ added, uri ∈ listed) ∧
        next = { s with links := s.links ++ added.map (parent, ·) }
  | .contract =>
      ∃ agreement,
        next = { s with agreements := s.agreements ++ [agreement], issued := s.issued + 1 }
  | .webhook => ∃ event, r.body = some event ∧ next = { s with events := s.events ++ [event] }
  | .describe | .entity _ | .data _ | .children _ _ => next = s

theorem Served.effect {route : Route} (h : Served site r s route response next)
    (hs : s.Sound site) (hu : site.Unrepeated (s.issued + 1)) :
    Site.Effect r response s next route := by
  cases h with
  | read hroute _ => cases route <;> first | rfl | exact absurd hroute (by simp [Route.isReading])
  | created _ hbody hstatus hlocation =>
      have hnew := Store.entity?_nextUri hs hu
      exact ⟨_, _, hbody, hstatus, hlocation, hnew _, Keyed.insert_perm _ (hnew _), rfl⟩
  | @linked parent _ _ uris _ _ _ hbody _ _ =>
      obtain ⟨added, heq, hsub, -⟩ := Store.addLinks_eq parent uris s
      exact ⟨uris, added, hbody, hsub, heq⟩
  | agreed _ _ _ _ _ _ _ _ => exact ⟨_, rfl⟩
  | recorded hbody _ _ => exact ⟨_, hbody, rfl⟩

/-! ## Every request -/

/-- A request that is not answered with a success leaves everything as it was; one that is changes
what its route owns in the way the route says; and reading changes nothing. -/
theorem answer_changes_only_its_part (hs : site.Reachable s)
    (hu : site.Unrepeated (s.issued + 1)) (r : Request) :
    ((site.answer r s).1.isSuccess = false → (site.answer r s).2 = s) ∧
    ((site.answer r s).1.isSuccess = true →
      ∃ route, Route.find site.baseUrl r.method r.url = .ok route ∧
        Site.Effect r (site.answer r s).1 s (site.answer r s).2 route) ∧
    (r.method = .get → (site.answer r s).2 = s) := by
  rcases site.answer_cases r s with ⟨refusal, heq⟩ | ⟨route, response, next, heq, hroute, hserved⟩
  · have hfail := refusal.isSuccess_response
    rw [heq]
    refine ⟨fun _ => rfl, ?_, fun _ => rfl⟩
    intro hok
    exact Bool.noConfusion (hfail.symm.trans hok)
  · have hok := hserved.isSuccess
    rw [heq]
    refine ⟨?_, ?_, ?_⟩
    · intro hfail
      exact Bool.noConfusion (hfail.symm.trans hok)
    · intro _
      exact ⟨route, hroute, hserved.effect hs.sound hu⟩
    · intro hget
      rw [hget] at hroute
      exact hserved.eq_of_isReading (Route.isReading_of_find_get hroute)

/-- A new connector that is asked to create a rule. -/
theorem rule_created_alone :
    let site := Site.counting "https://c"
    let r := Request.post "https://c/api/rules" (some (.obj []))
    site.Reachable .empty ∧ site.Unrepeated (Store.empty.issued + 1) ∧
      (site.answer r .empty).1.isSuccess = true ∧
      ∃ route, Route.find site.baseUrl r.method r.url = .ok route ∧
        Site.Effect r (site.answer r .empty).1 .empty (site.answer r .empty).2 route := by
  intro site r
  have hreach : site.Reachable .empty := ⟨[], rfl⟩
  have hfresh : site.Unrepeated (Store.empty.issued + 1) :=
    Site.counting_unrepeated (by decide)
  have hok : (site.answer r .empty).1.isSuccess = true := by decide +kernel
  exact ⟨hreach, hfresh, hok, (answer_changes_only_its_part hreach hfresh r).2.1 hok⟩

end Dataspace
