/-
A client at work on the in-memory connector.

Creating an entity through a client stores it under the next URI, unless its kind
cannot be created, and the client gets the handle of that URI.  Linking two
stored entities whose kinds go together adds the link.  So what a list of
creates and a list of links do to the connector can be computed without requests:
`Site.place` and `Store.addPairs` are that computation.
-/
import Dataspace.Proofs.Calls
import Dataspace.Proofs.Frame

namespace Dataspace

open Text

namespace Site

/-- The client of a connector, at the same base URL. -/
def client (site : Site) : Client Store :=
  ⟨site.baseUrl, site.transport⟩

example (url : String) (uuids : Nat → Uuid) :
    Client.connect url (ofUrl url uuids).transport = (ofUrl url uuids).client := rfl

/-- The handle of the next entity to be stored. -/
def nextHandle (site : Site) (kind : EntityKind) (s : Store) : Handle :=
  .ofEntity site.baseUrl kind (site.uuids s.issued).text

/-! ## Creating -/

section Create

variable {site : Site} {s : Store} {kind : EntityKind} {fields : Json}

theorem send_of_reply {r : Request} {response : Response} {next : Store}
    (h : site.reply r s = .ok (response, next)) :
    site.transport.send r s = (.ok response, next) := by
  simp only [transport, answer, h]

theorem send_of_refused {r : Request} {refusal : Refusal} (h : site.reply r s = .error refusal) :
    site.transport.send r s = (.ok refusal.response, s) := by
  simp only [transport, answer, h]

theorem reply_createRequest (site : Site) (s : Store) (kind : EntityKind) (fields : Json) :
    site.reply (Client.createRequest site.baseUrl kind fields) s
      = site.create kind (some fields) s := by
  have hroute := Route.find_create site.baseUrl kind
  exact congrArg (Except.bind · _) hroute

theorem client_create_of_reply {response : Response} {next : Store}
    (h : site.reply (Client.createRequest site.baseUrl kind fields) s = .ok (response, next)) :
    site.client.create kind fields s
      = (Client.createdHandle site.baseUrl kind fields (.ok response), next) :=
  Client.create_eq (c := site.client) (send_of_reply h)

/-- An entity whose kind cannot be created is not. -/
theorem client_create_failing (h : kind ∈ s.failing) (fields : Json) :
    ∃ e, site.client.create kind fields s = (.error e, s) := by
  have hreply : site.reply (Client.createRequest site.baseUrl kind fields) s
      = .error (.cannotPersist kind) := by
    rw [reply_createRequest]
    exact if_pos h
  exact ⟨_, Client.create_eq (c := site.client) (send_of_refused hreply)⟩

/-- A created location is read as the handle that the URI shows. -/
theorem createdHandle_location (hbase : startsBlank site.baseUrl = false) (body : Bytes) :
    Client.createdHandle site.baseUrl kind fields
        (.ok ⟨201, some (site.nextUri kind.collection s), body⟩)
      = .ok (site.nextHandle kind s) := by
  have hid := Uuid.isId_text (site.uuids s.issued)
  have hlocation := filled?_entityUri hbase hid kind.collection
  have hlocated : ∀ url, Client.locationHandle url
      ⟨201, some (site.nextUri kind.collection s), body⟩ = .ok (site.nextHandle kind s) := by
    intro url
    simp only [Client.locationHandle, Option.bind_some, nextUri, hlocation,
      parse_entityUri hbase hid, nextHandle]
  have hkind : (site.nextHandle kind s).kind = kind := rfl
  have hsuccess : Response.isSuccess ⟨201, some (site.nextUri kind.collection s), body⟩ = true := by
    simp [Response.isSuccess]
  simp only [Client.createdHandle, Client.postedHandle, Client.accept_of_isSuccess hsuccess,
    Except.bind, hlocated, if_pos hkind]

theorem client_create (hbase : startsBlank site.baseUrl = false) (h : kind ∉ s.failing)
    (hfields : fields.isObject = true) :
    site.client.create kind fields s
      = (.ok (site.nextHandle kind s), s.created site kind fields) := by
  cases fields with
  | obj members =>
      have hreply : ∃ body, site.reply (Client.createRequest site.baseUrl kind (.obj members)) s
          = .ok (⟨201, some (site.nextUri kind.collection s), body⟩,
              s.created site kind (.obj members)) := by
        rw [reply_createRequest, create, if_neg h]
        exact ⟨_, rfl⟩
      obtain ⟨body, hreply⟩ := hreply
      refine (client_create_of_reply hreply).trans ?_
      rw [createdHandle_location hbase]
  | _ => cases hfields

end Create

/-! ## Linking -/

section Link

variable {site : Site} {s : Store}

/-- The handle of a stored entity, as the connector gives it. -/
structure Stored (site : Site) (s : Store) (h : Handle) : Prop where
  form : ∃ id, IsId id ∧ h = .ofEntity site.baseUrl h.kind id
  kindOf : s.kindOf? h.uri = some h.kind

theorem reply_linkRequest (hbase : startsBlank site.baseUrl = false) {parent child : Handle}
    (hparent : site.Stored s parent) (hchild : site.Stored s child)
    (haccepts : parent.kind.accepts child.kind = true) :
    ∃ response, response.isSuccess = true ∧
      site.reply (Client.linkRequest parent child) s
        = .ok (response, s.addLink parent.uri child.uri) := by
  obtain ⟨id, hid, hform⟩ := hparent.form
  have hroute : Route.find site.baseUrl .post (parent.relationUrl child.kind)
      = .ok (.link parent.uri child.kind) := by
    rw [hform]
    exact Route.find_link hbase hid _ _
  have huri : childUri s child.kind (.str child.uri) = .ok child.uri := by
    simp only [childUri, hchild.kindOf, if_pos]
  refine ⟨.ofJson 200 (.object []), rfl, ?_⟩
  have hlink : link parent.uri child.kind (some (.texts [child.uri])) s
      = .ok (.ofJson 200 (.object []), s.addLink parent.uri child.uri) := by
    simp only [link, hparent.kindOf, if_pos haccepts, Json.texts, List.map_cons, List.map_nil,
      List.mapM_cons, huri]
    rfl
  exact (congrArg (Except.bind · _) hroute).trans hlink

theorem client_link (hbase : startsBlank site.baseUrl = false) {parent child : Handle}
    (hparent : site.Stored s parent) (hchild : site.Stored s child)
    (haccepts : parent.kind.accepts child.kind = true) :
    site.client.link parent child s = (.ok (), s.addLink parent.uri child.uri) := by
  obtain ⟨response, hsuccess, hreply⟩ := reply_linkRequest hbase hparent hchild haccepts
  rw [Client.link_eq (c := site.client) haccepts (send_of_reply hreply)]
  have hresult : Client.linkResult parent child (.ok response) = .ok () := by
    simp only [Client.linkResult, Client.accept, hsuccess, if_true]
  rw [hresult]

end Link

/-! ## Many creates -/

/-- The handle of an entity that is created, if its kind can be, and the next store. -/
def placeOne (site : Site) (e : Entity) (s : Store) : Option Handle × Store :=
  if e.kind ∈ s.failing then (none, s)
  else (some (site.nextHandle e.kind s), s.created site e.kind e.fields)

/-- The same for entities that are created one after the other. -/
def place (site : Site) : List Entity → Store → List (Option Handle) × Store
  | [], s => ([], s)
  | e :: rest, s =>
    let (handle, t) := site.placeOne e s
    let (handles, u) := site.place rest t
    (handle :: handles, u)

theorem place_cons {site : Site} {e : Entity} {s t : Store} {handle : Option Handle}
    (h : site.placeOne e s = (handle, t)) (rest : List Entity) :
    site.place (e :: rest) s = (handle :: (site.place rest t).1, (site.place rest t).2) := by
  simp only [place, h]

end Site

/-- The entities that were given a URI, under their URIs. -/
def keyed (uris : List (Option String)) (es : List Entity) : List (String × Entity) :=
  (uris.zip es).filterMap fun p => p.1.map (·, p.2)

theorem keyed_map (handles : List (Option Handle)) (es : List Entity) :
    keyed (handles.map (Option.map Handle.uri)) es
      = (handles.zip es).filterMap fun p => p.1.map fun h => (h.uri, p.2) := by
  rw [keyed, List.zip_map_left, List.filterMap_map]
  exact congrArg (List.filterMap · _) (funext fun p => Option.map_map ..)

/-- The store `t` is `s` with those of the entities stored whose kinds can be created;
they have these handles. -/
structure Placed (site : Site) (s : Store) (es : List Entity) (handles : List (Option Handle))
    (t : Store) : Prop where
  length : handles.length = es.length
  absent : ∀ p ∈ handles.zip es, p.1 = none ↔ p.2.kind ∈ s.failing
  form : ∀ p ∈ handles.zip es, ∀ h, p.1 = some h →
    ∃ id, IsId id ∧ h = .ofEntity site.baseUrl p.2.kind id
  entities : t.entities.Perm (keyed (handles.map (Option.map Handle.uri)) es ++ s.entities)
  rest : t = { s with
    entities := t.entities
    issued := s.issued + (keyed (handles.map (Option.map Handle.uri)) es).length }
  sound : t.Sound site

namespace Placed

variable {site : Site} {s t : Store} {e : Entity} {es : List Entity}
  {handles : List (Option Handle)}

theorem nil (hs : s.Sound site) : Placed site s [] [] s where
  length := rfl
  absent := List.forall_mem_nil _
  form := List.forall_mem_nil _
  entities := List.Perm.refl _
  rest := rfl
  sound := hs

theorem cons_failing (h : Placed site s es handles t) (he : e.kind ∈ s.failing) :
    Placed site s (e :: es) (none :: handles) t where
  length := congrArg Nat.succ h.length
  absent := List.forall_mem_cons.mpr ⟨⟨fun _ => he, fun _ => rfl⟩, h.absent⟩
  form := List.forall_mem_cons.mpr ⟨fun _ hnone => absurd hnone (by simp), h.form⟩
  entities := h.entities
  rest := h.rest
  sound := h.sound

theorem cons_created (hs : s.Sound site) (hu : site.Unrepeated (s.issued + 1))
    (h : Placed site (s.created site e.kind e.fields) es handles t) (he : e.kind ∉ s.failing) :
    Placed site s (e :: es) (some (site.nextHandle e.kind s) :: handles) t where
  length := congrArg Nat.succ h.length
  absent := List.forall_mem_cons.mpr ⟨⟨fun hnone => absurd hnone (by simp), fun hf => absurd hf he⟩,
    h.absent⟩
  form := List.forall_mem_cons.mpr
    ⟨fun _ hsome => ⟨_, Uuid.isId_text _, (Option.some.inj hsome).symm⟩, h.form⟩
  entities := by
    have hnew : (s.created site e.kind e.fields).entities.Perm
        ((site.nextUri e.kind.collection s, e) :: s.entities) :=
      Keyed.insert_perm e (Store.entity?_nextUri hs hu e.kind)
    exact h.entities.trans ((hnew.append_left _).trans List.perm_middle)
  rest := by
    have hrest := h.rest
    rw [show (s.created site e.kind e.fields).issued = s.issued + 1 from rfl, Nat.add_assoc,
      Nat.add_comm 1] at hrest
    exact hrest
  sound := h.sound

/-- The new entities are under URIs of their own, none of which was in use. -/
theorem keys_nodup (h : Placed site s es handles t) :
    ((keyed (handles.map (Option.map Handle.uri)) es ++ s.entities).map Prod.fst).Nodup := by
  exact (h.entities.map Prod.fst).nodup_iff.mp (Keyed.nodup_keys h.sound.ascending)

/-- A handle that was given is that of an entity that is stored now. -/
theorem stored (h : Placed site s es handles t) {p : Option Handle × Entity}
    (hp : p ∈ handles.zip es) {handle : Handle} (hhandle : p.1 = some handle) :
    site.Stored t handle ∧ handle.kind = p.2.kind := by
  obtain ⟨id, hid, rfl⟩ := h.form p hp handle hhandle
  have hmem : (Route.entityUri site.baseUrl p.2.kind.collection id, p.2) ∈
      keyed (handles.map (Option.map Handle.uri)) es := by
    rw [keyed_map]
    exact List.mem_filterMap.mpr ⟨p, hp, by rw [hhandle]; rfl⟩
  have hlookup := Keyed.lookup_of_mem h.sound.ascending
    (h.entities.mem_iff.mpr (List.mem_append_left _ hmem))
  exact ⟨⟨⟨id, hid, rfl⟩, congrArg (Option.map Entity.kind) hlookup⟩, rfl⟩

end Placed

theorem Site.placed_place {site : Site} {es : List Entity} {s : Store} (hs : s.Sound site)
    (hu : site.Unrepeated (s.issued + es.length)) (hes : ∀ e ∈ es, e.fields.isObject = true) :
    Placed site s es (site.place es s).1 (site.place es s).2 := by
  induction es generalizing s with
  | nil => exact .nil hs
  | cons e rest ih =>
      obtain ⟨he, hrest⟩ := List.forall_mem_cons.mp hes
      rw [List.length_cons] at hu
      by_cases hfailing : e.kind ∈ s.failing
      · rw [place_cons (if_pos hfailing)]
        exact (ih hs (hu.mono (by omega)) hrest).cons_failing hfailing
      · rw [place_cons (if_neg hfailing)]
        have hu' : site.Unrepeated ((s.created site e.kind e.fields).issued + rest.length) :=
          hu.mono (by show s.issued + 1 + rest.length ≤ _; omega)
        exact .cons_created hs (hu.mono (by omega)) (ih (Store.sound_created hs he) hu' hrest)
          hfailing

/-! ## Many links -/

/-- The links of which both ends have a URI. -/
def paired (links : List (Option String × Option String)) : List (String × String) :=
  links.filterMap fun l => l.1.bind fun parent => l.2.map fun child => (parent, child)

theorem paired_append (links more : List (Option String × Option String)) :
    paired (links ++ more) = paired links ++ paired more :=
  List.filterMap_append ..

namespace Store

/-- The store with links at the end, one after the other. -/
def addPairs (s : Store) (pairs : List (String × String)) : Store :=
  pairs.foldl (fun s l => s.addLink l.1 l.2) s

theorem kindOf?_addLink (s : Store) (parent child uri : String) :
    (s.addLink parent child).kindOf? uri = s.kindOf? uri := by
  unfold addLink
  split
  · rfl
  · rfl

theorem kindOf?_addPairs (pairs : List (String × String)) (s : Store) (uri : String) :
    (s.addPairs pairs).kindOf? uri = s.kindOf? uri := by
  induction pairs generalizing s with
  | nil => rfl
  | cons l rest ih => exact (ih _).trans (kindOf?_addLink s l.1 l.2 uri)

theorem addPairs_append (s : Store) (pairs more : List (String × String)) :
    (s.addPairs pairs).addPairs more = s.addPairs (pairs ++ more) :=
  List.foldl_append.symm

/-- A stored entity stays stored. -/
theorem stored_addPairs {site : Site} {s : Store} {h : Handle} (hh : site.Stored s h)
    (pairs : List (String × String)) : site.Stored (s.addPairs pairs) h :=
  ⟨hh.form, (kindOf?_addPairs pairs s h.uri).trans hh.kindOf⟩

/-- Links that are all new and different are all added. -/
theorem addPairs_eq {pairs : List (String × String)} {s : Store}
    (h : (s.links ++ pairs).Nodup) :
    s.addPairs pairs = { s with links := s.links ++ pairs } := by
  induction pairs generalizing s with
  | nil => rw [List.append_nil]; rfl
  | cons l rest ih =>
      have hnew : l ∉ s.links := fun hl =>
        (List.nodup_append.mp h).2.2 l hl l List.mem_cons_self rfl
      rw [List.append_cons] at h
      rw [addPairs, List.foldl_cons, addLink_of_not_mem hnew, ← addPairs, ih h, ← List.append_cons]

end Store

end Dataspace
