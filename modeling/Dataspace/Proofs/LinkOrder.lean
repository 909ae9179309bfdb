/-
The order of link requests.

Links are kept in one list, in the order in which they were made, so two requests leave
different stores when their order is changed.  It does not show where they are for
different lists of children: each list is made by one of the two, and what a description
says is made of such lists.  Only the list of an entity's parents tells the order, since it
is drawn from the links of all of them.
-/
import Dataspace.Proofs.Frame
import Dataspace.Proofs.Listings

namespace Dataspace

open Text

/-! ## Stores that show the same -/

/-- Two stores that differ at most in the order of their links, and not in what is read of them,
but for the order of an entity's parents. -/
structure Store.SameViews (site : Site) (s t : Store) : Prop where
  rest : s = { t with links := s.links }
  links : s.links.Perm t.links
  children : ∀ parent kind, s.children parent kind = t.children parent kind
  parents : ∀ child kind, (s.parents child kind).Perm (t.parents child kind)
  /-- The description of an element, or of the connector itself. -/
  described : ∀ element, (site.describe element s).map Prod.fst
    = (site.describe element t).map Prod.fst
  /-- Whatever is asked without changing anything. -/
  asked : ∀ r route, Route.find site.baseUrl r.method r.url = .ok route →
    route.isReading = true → (site.answer r s).1 = (site.answer r t).1

section Views

variable {site : Site} {s t : Store}

/-- A description is made of entities and lists of children. -/
theorem Site.describe_congr (hentities : s.entities = t.entities)
    (hchildren : ∀ parent kind, s.children parent kind = t.children parent kind)
    (element : Option String) :
    (site.describe element s).map Prod.fst = (site.describe element t).map Prod.fst := by
  have hlists : s.children = t.children := funext fun parent => funext fun kind =>
    hchildren parent kind
  have hfound : s.entity? = t.entity? := funext fun uri => congrArg (Keyed.lookup uri) hentities
  have hkinds : s.kindOf? = t.kindOf? := funext fun uri =>
    congrArg (Option.map Entity.kind) (congrFun hfound uri)
  cases element with
  | none =>
      have hself : s.describeSelf site.baseUrl = t.describeSelf site.baseUrl := by
        have hcatalogs : s.describeCatalog = t.describeCatalog := by
          funext catalog
          rw [Store.describeCatalog, Store.describeCatalog, hlists]
        rw [Store.describeSelf, Store.describeSelf, Store.urisOf, Store.urisOf, hentities,
          hcatalogs]
      show Except.ok (Response.ofJson 200 (s.describeSelf site.baseUrl)) = _
      rw [hself]
      rfl
  | some uri =>
      have hcontracts : s.describeContract = t.describeContract := by
        funext contract
        rw [Store.describeContract, Store.describeContract, hlists, hfound]
      have hrepresentations : s.describeRepresentation = t.describeRepresentation := by
        funext representation
        rw [Store.describeRepresentation, Store.describeRepresentation, hlists]
      have hentity : ∀ kind, s.describeEntity uri kind = t.describeEntity uri kind := by
        intro kind
        cases kind with
        | resource =>
            show s.describeResource uri = t.describeResource uri
            rw [Store.describeResource, Store.describeResource, hlists, hcontracts,
              hrepresentations]
        | _ => rfl
      cases hkind : t.kindOf? uri with
      | none => simp only [describe, hkinds, hkind]
      | some kind => simp only [describe, hkinds, hkind, unchanged, Except.map, hentity kind]

/-- An answer is read off what becomes of the request. -/
theorem Site.answer_fst_congr {r : Request}
    (h : (site.reply r s).map Prod.fst = (site.reply r t).map Prod.fst) :
    (site.answer r s).1 = (site.answer r t).1 := by
  unfold answer
  rcases hs : site.reply r s with refusal | ⟨response, next⟩
  · rcases ht : site.reply r t with other | ⟨response', next'⟩
    · rw [hs, ht] at h
      cases h
      rfl
    · rw [hs, ht] at h
      cases h
  · rcases ht : site.reply r t with other | ⟨response', next'⟩
    · rw [hs, ht] at h
      cases h
    · rw [hs, ht] at h
      cases h
      rfl

/-- Stores with the same entities, the same links up to their order and the same lists of children
show the same. -/
theorem Store.SameViews.of_children (hrest : s = { t with links := s.links })
    (hlinks : s.links.Perm t.links)
    (hchildren : ∀ parent kind, s.children parent kind = t.children parent kind) :
    s.SameViews site t := by
  have hentities : s.entities = t.entities := by
    rw [hrest]
  have hdata : s.artifactData = t.artifactData := by
    rw [hrest]
  have hfound : ∀ uri, s.entity? uri = t.entity? uri := fun uri =>
    congrArg (Keyed.lookup uri) hentities
  have hdescribed : ∀ element, (site.describe element s).map Prod.fst
      = (site.describe element t).map Prod.fst := Site.describe_congr hentities hchildren
  refine ⟨hrest, hlinks, hchildren, ?_, hdescribed, ?_⟩
  · intro child kind
    have hkinds : s.kindOf? = t.kindOf? := funext fun uri =>
      congrArg (Option.map Entity.kind) (hfound uri)
    unfold Store.parents
    rw [hkinds]
    exact (hlinks.filter _).map Prod.fst
  · intro r route hroute hreading
    refine Site.answer_fst_congr ?_
    rw [Site.reply, Site.reply, hroute]
    cases route with
    | describe => exact hdescribed _
    | entity uri =>
        show (Site.readEntity uri s).map Prod.fst = (Site.readEntity uri t).map Prod.fst
        unfold Site.readEntity
        rw [hfound]
        cases t.entity? uri <;> rfl
    | data artifact =>
        show (Site.readData artifact s).map Prod.fst = (Site.readData artifact t).map Prod.fst
        unfold Site.readData Store.dataOf?
        rw [hdata, hfound]
        cases Keyed.lookup artifact t.artifactData with
        | some data => rfl
        | none => cases t.entity? artifact <;> rfl
    | children parent kind =>
        show (Site.readChildren parent kind s).map Prod.fst
          = (Site.readChildren parent kind t).map Prod.fst
        unfold Site.readChildren
        rw [hfound, hchildren]
        cases t.entity? parent <;> rfl
    | contract | webhook | create _ | link _ _ => cases hreading

end Views

/-! ## Two changes in either order -/

namespace Store

variable {s : Store} {parent other : String} {child kind : EntityKind} {uris more : List String}

/-- As a set the links do not depend on the order in which they were added. -/
theorem links_addLinks_perm (h : s.links.Nodup) :
    ((s.addLinks parent uris).addLinks other more).links.Perm
      ((s.addLinks other more).addLinks parent uris).links := by
  refine (List.perm_ext_iff_of_nodup (nodup_links_addLinks (nodup_links_addLinks h _ _) _ _)
    (nodup_links_addLinks (nodup_links_addLinks h _ _) _ _)).mpr ?_
  intro l
  simp only [mem_links_addLinks]
  exact or_right_comm

/-- Children added to different lists do not get in each other's way. -/
theorem children_addLinks_comm (huris : ∀ uri ∈ uris, s.kindOf? uri = some child)
    (hmore : ∀ uri ∈ more, s.kindOf? uri = some kind) (hne : (parent, child) ≠ (other, kind))
    (p : String) (k : EntityKind) :
    ((s.addLinks parent uris).addLinks other more).children p k
      = ((s.addLinks other more).addLinks parent uris).children p k := by
  have hmore' : ∀ uri ∈ more, (s.addLinks parent uris).kindOf? uri = some kind := by
    rw [kindOf?_addLinks]
    exact hmore
  have huris' : ∀ uri ∈ uris, (s.addLinks other more).kindOf? uri = some child := by
    rw [kindOf?_addLinks]
    exact huris
  by_cases hfirst : (p, k) = (parent, child)
  · cases hfirst
    rw [children_addLinks_of_ne hmore' hne, children_addLinks huris, children_addLinks huris',
      children_addLinks_of_ne hmore hne]
  · rw [children_addLinks_of_ne huris' hfirst]
    by_cases hsecond : (p, k) = (other, kind)
    · cases hsecond
      rw [children_addLinks hmore', children_addLinks_of_ne huris hfirst, children_addLinks hmore]
    · rw [children_addLinks_of_ne hmore' hsecond, children_addLinks_of_ne huris hfirst,
        children_addLinks_of_ne hmore hsecond]

end Store

/-- Two link requests that name different parents, or different collections of one, can change
places: with whatever bodies, accepted or refused, each is answered as if the other had not been
made, and the stores after both show the same. -/
theorem link_requests_commute {site : Site} {s : Store} (hs : site.Reachable s) {r q : Request}
    {parent other : String} {child kind : EntityKind}
    (hr : Route.find site.baseUrl r.method r.url = .ok (.link parent child))
    (hq : Route.find site.baseUrl q.method q.url = .ok (.link other kind))
    (hne : (parent, child) ≠ (other, kind)) :
    (site.answer q (site.answer r s).2).1 = (site.answer q s).1 ∧
    (site.answer r (site.answer q s).2).1 = (site.answer r s).1 ∧
    (site.answer q (site.answer r s).2).2.SameViews site
      (site.answer r (site.answer q s).2).2 := by
  obtain ⟨uris, hafter, huris, hr'⟩ := Site.answer_link_next hr s
  obtain ⟨more, hafter', hmore, hq'⟩ := Site.answer_link_next hq s
  have hkinds := s.kindOf?_addLinks parent uris
  have hkinds' := s.kindOf?_addLinks other more
  rw [hafter, hafter', hq' _ hkinds, hr' _ hkinds']
  refine ⟨Site.answer_link_congr hq hkinds, Site.answer_link_congr hr hkinds', ?_⟩
  refine .of_children ?_ (Store.links_addLinks_perm hs.sound.linkedOnce)
    (Store.children_addLinks_comm huris hmore hne)
  rw [Store.addLinks_with (s.addLinks parent uris), Store.addLinks_with s,
    Store.addLinks_with (s.addLinks other more), Store.addLinks_with s other]

/-- A catalog and a resource that are each added to the other. -/
theorem link_requests_commute_mutual :
    let site := Site.counting "https://c"
    let s := site.performAll .empty
      [.request (.post "https://c/api/catalogs" (some (.obj []))),
       .request (.post "https://c/api/resources" (some (.obj [])))]
    let catalog := "https://c/api/catalogs/00000000-0000-0000-0000-000000000000"
    let resource := "https://c/api/resources/00000000-0000-0000-0000-000000000001"
    let r := Request.post (catalog ++ "/resources") (some (.texts [resource]))
    let q := Request.post (resource ++ "/catalogs") (some (.texts [catalog]))
    site.Reachable s ∧ (catalog, EntityKind.resource) ≠ (resource, .catalog) ∧
      Route.find site.baseUrl r.method r.url = .ok (.link catalog .resource) ∧
      Route.find site.baseUrl q.method q.url = .ok (.link resource .catalog) ∧
      (site.answer r (site.answer q s).2).1 = (site.answer r s).1 ∧
      (site.answer q (site.answer r s).2).2.SameViews site
        (site.answer r (site.answer q s).2).2 := by
  intro site s catalog resource r q
  have hreach : site.Reachable s := ⟨_, rfl⟩
  have hne : (catalog, EntityKind.resource) ≠ (resource, .catalog) := by decide +kernel
  have hbase : startsBlank site.baseUrl = false := by decide +kernel
  have hthere : s.kindOf? catalog = some .catalog ∧ s.kindOf? resource = some .resource := by
    decide +kernel
  have hr := hreach.sound.find_link hbase hthere.1 .resource
  have hq := hreach.sound.find_link hbase hthere.2 .catalog
  obtain ⟨-, hanswer, hviews⟩ := link_requests_commute (r := r) (q := q) hreach hr hq hne
  exact ⟨hreach, hne, hr, hq, hanswer, hviews⟩

end Dataspace
