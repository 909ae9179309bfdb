/-
Linking by handles.

A client posts a link to the parent's URI with the child's collection after it.  Cutting
that URL, the connector comes back to the URI it was made from, and the kind that a handle
shows is the kind under which its URI is stored, if it is stored.  So nothing can be wrong
with a link whose kinds go together but that one of the two is not stored, or that its URL
leads nowhere, and each of these is answered with 404: a handle is stale, or the link is
made.
-/
import Dataspace.Proofs.BlankBase
import Dataspace.Proofs.Linking
import Dataspace.Proofs.Placing

namespace Dataspace

open Text

/-! ## Two ways to cut a text -/

namespace Text

/-- A text is cut at its last separator and at some separator: at the same one, or with a part
between the two. -/
theorem append_sep_cases {sep : Char} {front last start rest : List Char} (hlast : sep ∉ last)
    (h : front ++ sep :: last = start ++ sep :: rest) :
    front = start ∨ ∃ middle, front = start ++ sep :: middle ∧ rest = middle ++ sep :: last := by
  rcases List.append_eq_append_iff.mp h with ⟨more, hstart, hend⟩ | ⟨more, hfront, hend⟩
  · cases more with
    | nil => exact Or.inl (hstart.trans (List.append_nil front)).symm
    | cons c cs =>
        -- the other separator would stand in the last part
        obtain ⟨-, rfl⟩ := List.cons.inj hend
        exact absurd (List.mem_append_right cs List.mem_cons_self) hlast
  · cases more with
    | nil => exact Or.inl (hfront.trans (List.append_nil start))
    | cons c middle =>
        obtain ⟨rfl, hrest⟩ := List.cons.inj hend
        exact Or.inr ⟨middle, hfront, hrest⟩

theorem eq_append_of_stripStart? {start s rest : String} (h : stripStart? start s = some rest) :
    s = start ++ rest := by
  unfold stripStart? at h
  split at h
  · rename_i hprefix
    obtain ⟨more, hmore⟩ := List.isPrefixOf_iff_prefix.mp hprefix
    have hdrop : s.toList.drop start.length = more := by
      rw [← hmore, ← String.length_toList]
      exact List.drop_left
    refine String.toList_inj.mp ?_
    rw [← Option.some.inj h, hdrop, String.toList_append, String.toList_ofList, hmore]
  · cases h

end Text

/-! ## Where a link request is sent -/

namespace Route

variable {base url : String} {segments : List String} {child : EntityKind}

theorem segments?_eq_some (h : segments? base url = some segments) :
    ∃ rest, url = base ++ ("/api/" ++ rest) ∧ segments = split '/' (withoutSlashes rest) := by
  simp only [segments?, Option.bind_eq_bind, Option.pure_def] at h
  obtain ⟨path, hpath, h⟩ := Option.bind_eq_some_iff.mp h
  obtain ⟨rest, hrest, h⟩ := Option.bind_eq_some_iff.mp h
  refine ⟨rest, ?_, (Option.some.inj h).symm⟩
  rw [eq_append_of_stripStart? hpath, eq_append_of_stripStart? hrest]

/-- The segments of the URL of a relation end in its collection and begin with some of the
entity's. -/
theorem segments?_relationUrl {parent : Handle} (hne : parent.uri ≠ base ++ "/api")
    (h : segments? base (parent.relationUrl child) = some segments) :
    ∃ before, before ≠ [] ∧ segments = before ++ [child.collection] := by
  obtain ⟨rest, hurl, hsegments⟩ := segments?_eq_some h
  have hcut : parent.uri.toList ++ '/' :: child.collection.toList
      = (base ++ "/api").toList ++ '/' :: rest.toList := by
    simpa [Handle.relationUrl] using congrArg String.toList hurl
  rcases append_sep_cases child.slash_not_mem_collection hcut with hfront | ⟨middle, -, hrest⟩
  · exact absurd (String.toList_inj.mp hfront) hne
  · have hcollection : child.collection.toList ≠ [] := by
      cases child <;> decide
    have hkeep : withoutSlashes rest = rest := by
      have hends : rest = String.ofList (middle ++ ['/']) ++ child.collection :=
        String.toList_inj.mp (by simp [hrest])
      rw [hends]
      exact withoutSlashes_of_ends hcollection child.slash_not_mem_collection
    refine ⟨(pieces '/' middle).map String.ofList, ?_, ?_⟩
    · intro hnil
      exact pieces_ne_nil '/' middle (List.map_eq_nil_iff.mp hnil)
    · rw [hsegments, hkeep, split, hrest, pieces_append, pieces_of_not_mem child.slash_not_mem_collection,
        List.map_append, List.map_cons, String.ofList_toList]
      rfl

theorem ofPost_of_long (url : String) (h : 3 < segments.length) :
    ofPost url segments = .error .noRoute := by
  unfold ofPost
  split
  · exact absurd h (by decide)
  · exact absurd h (by decide)
  · exact absurd h (by decide)
  · exact absurd h (by simp)
  · exact absurd h (by simp)
  · rfl

/-- Of two segments the last one would have to be a word that is no collection. -/
theorem ofPost_pair (url first : String) (child : EntityKind) :
    ofPost url [first, child.collection] = .error .noRoute := by
  have hname : child.collection ≠ "description" ∧ child.collection ≠ "contract" ∧
      child.collection ≠ "registry" := by
    cases child <;> decide
  obtain ⟨hdescription, hcontract, hregistry⟩ := hname
  unfold ofPost
  split
  · rename_i h
    exact absurd (List.cons.inj (List.cons.inj h).2).1 hdescription
  · rename_i h
    exact absurd (List.cons.inj (List.cons.inj h).2).1 hcontract
  · rename_i h
    exact absurd (List.cons.inj (List.cons.inj h).2).1 hregistry
  · rename_i h
    cases h
  · rename_i h
    cases h
  · rfl

/-- A URL posted to with a collection at its end, after something else, asks for a link or for
nothing. -/
theorem ofPost_concat {parent : Handle} {before : List String} (hne : before ≠ [])
    (hparent : Handle.parse ((beforeLast? '/' url).getD "") = .ok parent) :
    ofPost url (before ++ [child.collection]) = .ok (.link parent.uri child) ∨
      ofPost url (before ++ [child.collection]) = .error .noRoute := by
  match before with
  | [] => exact absurd rfl hne
  | [first] => exact Or.inr (ofPost_pair url first child)
  | [_, _] => exact Or.inl (ofPost_link hparent (EntityKind.ofCollection?_collection child))
  | _ :: _ :: _ :: rest =>
      refine Or.inr (ofPost_of_long url ?_)
      simp only [List.length_append, List.length_cons]
      omega

/-- The parent that the connector reads is the one the URL was made for. -/
theorem find_relationUrl {parent : Handle} (hparent : Handle.parse parent.uri = .ok parent)
    (hne : parent.uri ≠ base ++ "/api") (child : EntityKind) :
    find base .post (parent.relationUrl child) = .ok (.link parent.uri child) ∨
      ∃ refusal : Refusal, refusal.status = 404 ∧
        find base .post (parent.relationUrl child) = .error refusal := by
  cases hsegments : segments? base (parent.relationUrl child) with
  | none =>
      refine Or.inr ⟨.unknownHost, rfl, ?_⟩
      rw [find, hsegments]
  | some segments =>
      obtain ⟨before, hbefore, rfl⟩ := segments?_relationUrl hne hsegments
      have hfront : Handle.parse ((beforeLast? '/' (parent.relationUrl child)).getD "")
          = .ok parent := by
        have hurl : parent.relationUrl child
            = parent.uri ++ String.singleton '/' ++ child.collection := rfl
        rw [hurl, beforeLast?_append child.slash_not_mem_collection]
        exact hparent
      rw [find, hsegments]
      rcases ofPost_concat hbefore hfront with hlink | hnone
      · exact Or.inl hlink
      · exact Or.inr ⟨.noRoute, rfl, hnone⟩

end Route

/-! ## Handles of what is stored -/

section Stored

variable {site : Site} {s : Store} {text : String} {h : Handle}

/-- Without blanks around it the URI of a handle reads back as the handle. -/
theorem Handle.parse_uri (hparse : parse text = .ok h) (htrim : trim h.uri = h.uri) :
    parse h.uri = .ok h := by
  obtain ⟨huri, haddress⟩ := parse_ok hparse
  have hkept : trimChars h.uri.toList = h.uri.toList := by
    rw [trim] at htrim
    exact String.ofList_inj.mp (htrim.trans String.ofList_toList.symm)
  have hchars : uriChars h.uri.toList = uriChars text.toList := by
    rw [uriChars, hkept, huri, String.toList_ofList, uriChars]
    exact dropEndWhile_idem _ _
  rw [parse, hchars, haddress, ← huri]

namespace Store.Sound

variable (hs : s.Sound site) (hparse : Handle.parse text = .ok h)
include hs hparse

/-- The kind that a handle shows is the one under which its URI is stored. -/
theorem stored_of_parse {kind : EntityKind} (hkind : s.kindOf? h.uri = some kind) :
    site.Stored s h := by
  obtain ⟨id, hid, huri⟩ := hs.entityUri_of_kindOf? hkind
  obtain ⟨hchars, haddress⟩ := Handle.parse_ok hparse
  have hlist : h.uri.toList = Handle.uriChars text.toList := by
    rw [hchars, String.toList_ofList]
  rw [← hlist, huri, address?_entityUri hid] at haddress
  obtain ⟨hkind', hid'⟩ := Prod.mk.inj (Except.ok.inj haddress)
  have hform : h = .ofEntity site.baseUrl h.kind id := by
    rw [Handle.ofEntity, ← hkind', ← huri, hid', hkind']
  exact ⟨⟨id, hid, hform⟩, hkind.trans (congrArg some hkind')⟩

theorem stored_iff : site.Stored s h ↔ (s.entity? h.uri).isSome := by
  constructor
  · intro hstored
    obtain ⟨e, he, -⟩ := entity?_of_kindOf? hstored.kindOf
    exact Option.isSome_iff_exists.mpr ⟨e, he⟩
  · intro hthere
    obtain ⟨e, he⟩ := Option.isSome_iff_exists.mp hthere
    exact hs.stored_of_parse hparse (congrArg (Option.map Entity.kind) he)

end Store.Sound

/-- A connector whose base URL begins with a blank stores nothing that a handle stands for. -/
theorem Site.Stored.startsBlank_base (h' : site.Stored s h) (hparse : Handle.parse text = .ok h) :
    startsBlank site.baseUrl = false := by
  obtain ⟨id, -, hform⟩ := h'.form
  have huri : h.uri = site.baseUrl ++ _ :=
    (congrArg Handle.uri hform).trans (Route.entityUri_eq site.baseUrl h.kind.collection id)
  refine Bool.eq_false_iff.mpr fun hbase => ?_
  have hmissed := stripStart?_of_startsBlank hbase (Handle.startsBlank_of_parse hparse)
  rw [huri, stripStart?_append] at hmissed
  cases hmissed

end Stored

/-! ## Requests that are refused -/

section Refused

variable {site : Site} {s : Store} {parent child : Handle} {text other : String}
  (hs : s.Sound site) (hp : Handle.parse text = .ok parent) (hc : Handle.parse other = .ok child)
  (haccepts : parent.kind.accepts child.kind = true)
  (hmissing : ¬ (site.Stored s parent ∧ site.Stored s child))
include hs hp hc haccepts hmissing

/-- Of handles whose kinds go together one can only be found to be missing. -/
theorem Site.fitChildren_of_missing : ∃ uri,
    fitChildren parent.uri child.kind (some (.texts [child.uri])) s = .error (.notFound uri) := by
  unfold fitChildren
  cases hparent : s.kindOf? parent.uri with
  | none => exact ⟨_, rfl⟩
  | some kind =>
      have hstored := hs.stored_of_parse hp hparent
      obtain rfl : parent.kind = kind := Option.some.inj (hstored.kindOf.symm.trans hparent)
      have hchild : s.kindOf? child.uri = none := by
        cases hkind : s.kindOf? child.uri with
        | none => rfl
        | some kind => exact absurd ⟨hstored, hs.stored_of_parse hc hkind⟩ hmissing
      have hitem : childUri s child.kind (.str child.uri) = .error (.notFound child.uri) := by
        simp only [childUri, hchild]
      refine ⟨child.uri, ?_⟩
      show (if parent.kind.accepts child.kind = true then
        [Json.str child.uri].mapM (childUri s child.kind)
        else .error (.noRelation parent.kind child.kind)) = _
      rw [if_pos haccepts, List.mapM_cons, hitem]
      rfl

/-- Such a request is refused with 404, wherever it is sent. -/
theorem Site.reply_of_missing (htrim : trim parent.uri = parent.uri)
    (hne : parent.uri ≠ site.baseUrl ++ "/api") : ∃ refusal : Refusal, refusal.status = 404 ∧
      site.reply (Client.linkRequest parent child) s = .error refusal := by
  rcases Route.find_relationUrl (Handle.parse_uri hp htrim) hne child.kind with
    hroute | ⟨refusal, hstatus, hroute⟩
  · obtain ⟨uri, hfit⟩ := fitChildren_of_missing hs hp hc haccepts hmissing
    have hlink : link parent.uri child.kind (some (.texts [child.uri])) s
        = .error (.notFound uri) := by
      rw [link_eq, hfit]
      rfl
    exact ⟨.notFound uri, rfl, (congrArg (Except.bind · _) hroute).trans hlink⟩
  · exact ⟨refusal, hstatus, congrArg (Except.bind · _) hroute⟩

end Refused

/-! ## What the client makes of it -/

/-- A link that is made is there once, whether or not it was there before. -/
theorem Store.count_links_addLink {s : Store} (h : s.links.Nodup) (parent child : String) :
    (s.addLink parent child).links.count (parent, child) = 1 := by
  have honce : (s.addLink parent child).links.Nodup := nodup_links_addLinks h parent [child]
  have hmade : (parent, child) ∈ (s.addLink parent child).links :=
    mem_links_addLink.mpr (Or.inr rfl)
  exact Nat.le_antisymm (List.nodup_iff_count.mp honce _) (List.count_pos_iff.mpr hmade)

namespace Client

variable {site : Site} {s : Store} {parent child : Handle} {text other : String}

/-- Kinds that do not go together are no matter of the connector. -/
theorem link_of_not_accepted {σ : Type} (c : Client σ)
    (h : parent.kind.accepts child.kind = false) (s : σ) :
    c.link parent child s
      = (.error (.invalidHandle ⟨child.uri, .notAccepted child.kind parent.kind⟩), s) := by
  rw [link, if_neg (Bool.eq_false_iff.mp h)]
  rfl

/-- A refusal with 404 is about a stale handle. -/
theorem linkResult_of_notFound (parent child : Handle) {refusal : Refusal}
    (h : refusal.status = 404) :
    linkResult parent child (.ok refusal.response)
      = .error (.staleHandle (parent.relationUrl child.kind) refusal.response.message?) := by
  have hstatus : refusal.response.status = 404 := h
  have haccept : accept (linkRequest parent child) (.ok refusal.response)
      = .error (.request (parent.relationUrl child.kind) 404 refusal.response.message?
          refusal.response.text) := by
    rw [accept, refusal.isSuccess_response, hstatus]
    rfl
  rw [linkResult, haccept]
  rfl

theorem link_of_stored (url : String) (hp : Handle.parse text = .ok parent)
    (haccepts : parent.kind.accepts child.kind = true) (hparent : site.Stored s parent)
    (hchild : site.Stored s child) :
    (connect url site.transport).link parent child s
      = (.ok (), s.addLink parent.uri child.uri) := by
  obtain ⟨response, hsuccess, hreply⟩ :=
    Site.reply_linkRequest (hparent.startsBlank_base hp) hparent hchild haccepts
  rw [link_eq (c := connect url site.transport) haccepts (Site.send_of_reply hreply), linkResult,
    accept_of_isSuccess hsuccess]

theorem link_of_missing (url : String) (hs : s.Sound site) (hp : Handle.parse text = .ok parent)
    (hc : Handle.parse other = .ok child) (htrim : trim parent.uri = parent.uri)
    (hne : parent.uri ≠ site.baseUrl ++ "/api")
    (haccepts : parent.kind.accepts child.kind = true)
    (hmissing : ¬ (site.Stored s parent ∧ site.Stored s child)) :
    ∃ message, (connect url site.transport).link parent child s
      = (.error (.staleHandle (parent.relationUrl child.kind) message), s) := by
  obtain ⟨refusal, hstatus, hreply⟩ :=
    Site.reply_of_missing hs hp hc haccepts hmissing htrim hne
  refine ⟨refusal.response.message?, ?_⟩
  rw [link_eq (c := connect url site.transport) haccepts (Site.send_of_refused hreply),
    linkResult_of_notFound parent child hstatus]

end Client

/-- A client that links by handles without blanks around them, not at the place where entities are
created, is told one of three things.  Kinds that do not go together make an invalid handle, and
nothing is sent for them.  Otherwise the link is made if both entities are stored, and a handle is
stale if one is not, wherever the URIs point.  Only a link that is made changes the store, and the
store then has it once. -/
theorem link_by_handles {site : Site} {s : Store} (hs : site.Reachable s) (url : String)
    {parent child : Handle} {text other : String} (hp : Handle.parse text = .ok parent)
    (hc : Handle.parse other = .ok child) (htrim : trim parent.uri = parent.uri)
    (hne : parent.uri ≠ site.baseUrl ++ "/api") :
    let c := Client.connect url site.transport
    let result := (c.link parent child s).1
    let next := (c.link parent child s).2
    let calls := (c.logging.link parent child (s, [])).2.2
    (((∃ e, result = .error (.invalidHandle e)) ∧ calls = []) ↔
      parent.kind.accepts child.kind = false) ∧
    (parent.kind.accepts child.kind = true →
      (result = .ok () ↔ (s.entity? parent.uri).isSome ∧ (s.entity? child.uri).isSome) ∧
      (result ≠ .ok () →
        ∃ message, result = .error (.staleHandle (parent.relationUrl child.kind) message))) ∧
    (result ≠ .ok () → next = s) ∧
    (result = .ok () → next.links.count (parent.uri, child.uri) = 1) := by
  intro c result next calls
  have hsound := hs.sound
  cases haccepts : parent.kind.accepts child.kind with
  | false =>
      have hlink := c.link_of_not_accepted haccepts s
      have hresult : result
          = .error (.invalidHandle ⟨child.uri, .notAccepted child.kind parent.kind⟩) :=
        congrArg Prod.fst hlink
      have hnext : next = s := congrArg Prod.snd hlink
      have hcalls : calls = [] := by
        show (c.logging.link parent child (s, [])).2.2 = []
        rw [Client.link_of_not_accepted _ haccepts]
      refine ⟨iff_of_true ⟨⟨_, hresult⟩, hcalls⟩ rfl, ?_, fun _ => hnext, ?_⟩
      · intro hfalse
        cases hfalse
      · intro hok
        cases hresult.symm.trans hok
  | true =>
      rw [← hsound.stored_iff hp, ← hsound.stored_iff hc]
      by_cases hboth : site.Stored s parent ∧ site.Stored s child
      · have hlink := Client.link_of_stored url hp haccepts hboth.1 hboth.2
        have hresult : result = .ok () := congrArg Prod.fst hlink
        have hnext : next = s.addLink parent.uri child.uri := congrArg Prod.snd hlink
        refine ⟨iff_of_false ?_ (fun h => by cases h), ?_, ?_, ?_⟩
        · rintro ⟨⟨e, he⟩, -⟩
          cases he.symm.trans hresult
        · intro _
          exact ⟨iff_of_true hresult hboth, fun h => absurd hresult h⟩
        · intro h
          exact absurd hresult h
        · intro _
          rw [hnext]
          exact Store.count_links_addLink hsound.linkedOnce parent.uri child.uri
      · obtain ⟨message, hlink⟩ :=
          Client.link_of_missing url hsound hp hc htrim hne haccepts hboth
        have hresult : result = .error (.staleHandle (parent.relationUrl child.kind) message) :=
          congrArg Prod.fst hlink
        have hnext : next = s := congrArg Prod.snd hlink
        have hfailed : result ≠ .ok () := by
          intro hok
          cases hresult.symm.trans hok
        refine ⟨iff_of_false ?_ (fun h => by cases h), ?_, fun _ => hnext, fun h => absurd h hfailed⟩
        · rintro ⟨⟨e, he⟩, -⟩
          cases he.symm.trans hresult
        · intro _
          exact ⟨iff_of_false hfailed hboth, fun _ => ⟨message, hresult⟩⟩

/-- A resource is added to a catalog, and one that was never stored is not. -/
theorem link_by_handles_of_catalog :
    let site := Site.counting "https://c"
    let s := site.performAll .empty
      [.request (.post "https://c/api/catalogs" (some (.obj []))),
       .request (.post "https://c/api/resources" (some (.obj [])))]
    let c := Client.connect "https://c/" site.transport
    let catalog := Handle.ofEntity site.baseUrl .catalog (site.uuids 0).text
    let resource := Handle.ofEntity site.baseUrl .resource (site.uuids 1).text
    let ghost := Handle.ofEntity site.baseUrl .resource (site.uuids 7).text
    site.Reachable s ∧ Handle.parse catalog.uri = .ok catalog ∧
      Handle.parse resource.uri = .ok resource ∧ Handle.parse ghost.uri = .ok ghost ∧
      trim catalog.uri = catalog.uri ∧ catalog.uri ≠ site.baseUrl ++ "/api" ∧
      (c.link catalog resource s).1 = .ok () ∧
      (c.link catalog resource s).2.links.count (catalog.uri, resource.uri) = 1 ∧
      (∃ message, (c.link catalog ghost s).1
        = .error (.staleHandle (catalog.relationUrl .resource) message)) ∧
      (c.link catalog ghost s).2 = s := by
  intro site s c catalog resource ghost
  have hreach : site.Reachable s := ⟨_, rfl⟩
  have hbase : startsBlank site.baseUrl = false := by decide +kernel
  have hcatalog : Handle.parse catalog.uri = .ok catalog :=
    parse_entityUri hbase (Uuid.isId_text _)
  have hresource : Handle.parse resource.uri = .ok resource :=
    parse_entityUri hbase (Uuid.isId_text _)
  have hghost : Handle.parse ghost.uri = .ok ghost := parse_entityUri hbase (Uuid.isId_text _)
  have htrim : trim catalog.uri = catalog.uri := by decide +kernel
  have hne : catalog.uri ≠ site.baseUrl ++ "/api" := by decide +kernel
  have hthere : (s.entity? catalog.uri).isSome ∧ (s.entity? resource.uri).isSome ∧
      (s.entity? ghost.uri).isSome = false := by decide +kernel
  obtain ⟨hparent, hchild, hmissing⟩ := hthere
  obtain ⟨-, hlink, -, hcount⟩ := link_by_handles hreach "https://c/" hcatalog hresource htrim hne
  obtain ⟨-, hlink', hkept, -⟩ := link_by_handles hreach "https://c/" hcatalog hghost htrim hne
  have hok : (c.link catalog resource s).1 = .ok () := (hlink rfl).1.mpr ⟨hparent, hchild⟩
  have hfailed : (c.link catalog ghost s).1 ≠ .ok () := by
    intro h
    exact Bool.false_ne_true (hmissing.symm.trans ((hlink' rfl).1.mp h).2)
  exact ⟨hreach, hcatalog, hresource, hghost, htrim, hne, hok, hcount hok, (hlink' rfl).2 hfailed,
    hkept hfailed⟩

end Dataspace
