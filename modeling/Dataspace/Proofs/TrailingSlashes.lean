/-
Slashes at the end of a request's URL.

The segments of a URL are read without the slashes at its end, and every route but one
is found from the segments alone.  The parent of a link request is read from the URL as
it is written: from what stands before its last slash.  So slashes at the end make no
difference unless the URL names a collection of an entity and has none yet.  There the
first slash that is put at the end makes the collection the id of what is read as the
parent, and nothing is stored under such an id, because no collection is spelled as a
UUID: the request is answered with 404, whatever it would be answered without the slash.
Further slashes make no difference again.
-/
import Dataspace.Proofs.LinkedHandles
import Dataspace.Proofs.PrintedHandles
import Dataspace.Proofs.UuidText

namespace Dataspace

open Text

/-! ## Slashes after a text -/

namespace Text

theorem dropEndWhile_replicate {α : Type} [BEq α] [LawfulBEq α] (xs : List α) (n : Nat) (x : α) :
    dropEndWhile (· == x) (xs ++ List.replicate n x) = dropEndWhile (· == x) xs := by
  refine dropEndWhile_append_of_eq_nil ?_ xs
  simp [dropEndWhile]

theorem withoutSlashes_append_slashes (s : String) (n : Nat) :
    withoutSlashes (s ++ slashes n) = withoutSlashes s := by
  rw [withoutSlashes, withoutSlashes, dropTrailing, dropTrailing, String.toList_append,
    toList_slashes, dropEndWhile_replicate]

/-- A text is what is left of it without the slashes at its end, and slashes. -/
theorem eq_withoutSlashes_append (s : String) : ∃ n, s = withoutSlashes s ++ slashes n := by
  have hwhole := dropEndWhile_append (· == '/') s.toList
  have hslashes : ∀ c ∈ (s.toList.reverse.takeWhile (· == '/')).reverse, c = '/' := by
    intro c hc
    have hall : (s.toList.reverse.takeWhile (· == '/')).all (· == '/') = true := List.all_takeWhile
    exact beq_iff_eq.mp (List.all_eq_true.mp hall c (List.mem_reverse.mp hc))
  refine ⟨(s.toList.reverse.takeWhile (· == '/')).reverse.length, String.toList_inj.mp ?_⟩
  rw [String.toList_append, toList_slashes, withoutSlashes, dropTrailing, String.toList_ofList,
    ← List.eq_replicate_of_mem hslashes]
  exact hwhole.symm

theorem beforeLast?_slashes (s : String) (n : Nat) :
    beforeLast? '/' (s ++ slashes (n + 1)) = some (s ++ slashes n) := by
  have hnone : '/' ∉ "".toList := List.not_mem_nil
  have hlast := beforeLast?_append hnone (s ++ slashes n)
  rw [String.append_empty, String.append_assoc, ← slashes_succ] at hlast
  exact hlast

end Text

/-! ## What is read as the parent -/

theorem EntityKind.collection_ne_nil (child : EntityKind) : child.collection.toList ≠ [] := by
  cases child <;> decide +kernel

/-- No blank and no slash is in the name of a collection. -/
theorem EntityKind.collection_plain (child : EntityKind) :
    ∀ c ∈ child.collection.toList, isBlank c = false ∧ (c == '/') = false := by
  have hall : child.collection.toList.all (fun c => !isBlank c && !(c == '/')) = true := by
    cases child <;> decide +kernel
  intro c hc
  simpa using List.all_eq_true.mp hall c hc

namespace Route

variable {base url : String} {first second : String} {child : EntityKind}

/-- A URL with three segments, the last of which is a collection, ends in a slash and that
collection once the slashes at its end are taken off. -/
theorem withoutSlashes_of_segments?
    (h : segments? base url = some [first, second, child.collection]) :
    ∃ front, withoutSlashes url = front ++ "/" ++ child.collection := by
  obtain ⟨rest, hurl, hsegments⟩ := segments?_eq_some h
  have hback : Handle.lastSegments (withoutSlashes rest).toList
      = [child.collection, second, first] := by
    have hreverse := congrArg List.reverse hsegments
    rw [split, ← List.map_reverse] at hreverse
    exact hreverse.symm
  obtain ⟨-, ⟨-, hone⟩ | ⟨front, hfront, -⟩⟩ := Handle.lastSegments_eq_cons_iff.mp hback
  · cases hone
  · obtain ⟨n, hrest⟩ := eq_withoutSlashes_append rest
    refine ⟨base ++ "/api/" ++ String.ofList front, ?_⟩
    have hends : url = base ++ "/api/" ++ String.ofList front ++ "/" ++ child.collection
        ++ slashes n := by
      rw [hurl, hrest, ← String.ofList_toList (s := withoutSlashes rest), hfront]
      exact String.toList_inj.mp (by simp)
    rw [hends, withoutSlashes_append_slashes]
    exact withoutSlashes_of_ends child.collection_ne_nil child.slash_not_mem_collection

end Route

namespace Handle

/-- Of a text that ends in a slash and a collection nothing is taken off at the end but slashes. -/
theorem uriChars_slashes (front : String) (child : EntityKind) (n : Nat) :
    uriChars (front ++ "/" ++ child.collection ++ slashes n).toList
      = front.toList.dropWhile isBlank ++ '/' :: child.collection.toList := by
  have hne := child.collection_ne_nil
  have hplain := child.collection_plain
  have hlist : (front ++ "/" ++ child.collection ++ slashes n).toList
      = front.toList ++ '/' :: (child.collection.toList ++ List.replicate n '/') := by
    simp [toList_slashes]
  have hdrop : ∀ cs : List Char, (front.toList ++ '/' :: cs).dropWhile isBlank
      = front.toList.dropWhile isBlank ++ '/' :: cs := by
    intro cs
    have hslash : isBlank '/' = false := by decide
    have hkeep : ('/' :: cs).dropWhile isBlank = '/' :: cs := dropWhile_of_any_head? hslash
    rw [List.dropWhile_append, hkeep]
    by_cases hfront : (front.toList.dropWhile isBlank).isEmpty = true
    · rw [if_pos hfront, List.isEmpty_iff.mp hfront, List.nil_append]
    · rw [if_neg hfront]
  have hends : ∀ c ∈ child.collection.toList ++ List.replicate n '/', isBlank c = false := by
    intro c hc
    rcases List.mem_append.mp hc with hc | hc
    · exact (hplain c hc).1
    · rw [List.eq_of_mem_replicate hc]
      decide
  rw [hlist, uriChars, trimChars, hdrop, List.append_cons,
    dropEndWhile_append_of_last (List.append_ne_nil_of_left_ne_nil hne _) hends,
    ← List.append_assoc, dropEndWhile_replicate, dropEndWhile_append_of_last hne fun c hc => (hplain c hc).2,
    List.append_assoc, List.singleton_append]

/-- How many slashes stand at its end makes no difference. -/
theorem parse_slashes (front : String) (child : EntityKind) (m n : Nat) :
    (parse (front ++ "/" ++ child.collection ++ slashes m)).toOption
      = (parse (front ++ "/" ++ child.collection ++ slashes n)).toOption := by
  cases haddress : address? (front.toList.dropWhile isBlank ++ '/' :: child.collection.toList) with
  | error fault => simp only [parse, uriChars_slashes, haddress, Except.toOption]
  | ok address => simp only [parse, uriChars_slashes, haddress]

/-- The collection is read as the id. -/
theorem id_of_parse_slashes {front : String} {child : EntityKind} {n : Nat} {h : Handle}
    (hparse : parse (front ++ "/" ++ child.collection ++ slashes n) = .ok h) :
    h.id = child.collection := by
  obtain ⟨-, haddress⟩ := parse_ok hparse
  rw [uriChars_slashes] at haddress
  obtain ⟨rest, hsegments, -⟩ := address?_ok haddress
  rw [lastSegments_append child.slash_not_mem_collection, String.ofList_toList] at hsegments
  exact (List.cons.inj hsegments).1.symm

end Handle

/-- Nothing is stored under the URI of a handle with such an id. -/
theorem Store.Sound.kindOf?_of_collection {site : Site} {s : Store} (hs : s.Sound site)
    {text : String} {h : Handle} (hparse : Handle.parse text = .ok h) {child : EntityKind}
    (hid : h.id = child.collection) : s.kindOf? h.uri = none := by
  cases hkind : s.kindOf? h.uri with
  | none => rfl
  | some kind =>
      obtain ⟨e, he, -⟩ := entity?_of_kindOf? hkind
      obtain ⟨n, -, huri⟩ := hs.addressed _ (mem_of_entity? he)
      obtain ⟨hchars, haddress⟩ := Handle.parse_ok hparse
      have hlist : Handle.uriChars text.toList
          = (Route.entityUri site.baseUrl e.kind.collection (site.uuids n).text).toList := by
        rw [← huri, hchars, String.toList_ofList]
      rw [hlist, address?_entityUri (site.uuids n).isId_text] at haddress
      have hsame : (site.uuids n).text = child.collection :=
        (Prod.mk.inj (Except.ok.inj haddress)).2.trans hid
      have htext : Uuid.isText child.collection = true := hsame ▸ (site.uuids n).isText_text
      have hnone : Uuid.isText child.collection = false := by
        cases child <;> decide +kernel
      exact absurd (htext.symm.trans hnone) (by decide)

/-! ## Routes -/

namespace Route

variable {base url other : String} {segments : List String}

/-- What is posted to a collection of something asks for a link if the parent is a handle. -/
theorem ofPost_collection (url first second : String) (child : EntityKind) :
    ofPost url [first, second, child.collection] =
      match (Handle.parse ((beforeLast? '/' url).getD "")).toOption with
      | some parent => .ok (.link parent.uri child)
      | none => .error .noRoute := by
  unfold ofPost
  cases hparent : Handle.parse ((beforeLast? '/' url).getD "") with
  | error e => simp only [Except.toOption]
  | ok parent => simp only [EntityKind.ofCollection?_collection, Except.toOption]

/-- Nothing else that is posted depends on the URL but by its segments. -/
theorem ofPost_of_no_collection
    (h : ∀ first second child, segments ≠ [first, second, EntityKind.collection child]) :
    ofPost url segments = ofPost other segments := by
  unfold ofPost
  split
  case h_5 first second name =>
    cases hname : EntityKind.ofCollection? name with
    | none =>
        -- whatever is read as the parent, there is no such route
        cases Handle.parse ((beforeLast? '/' url).getD "") <;>
          cases Handle.parse ((beforeLast? '/' other).getD "") <;> rfl
    | some child =>
        rw [← EntityKind.collection_of_ofCollection? hname] at h
        exact absurd rfl (h first second child)
  all_goals rfl

/-- From the second slash at the end on, what is read as the parent stays the same. -/
theorem ofPost_slashes (front first second : String) (child : EntityKind) (m n : Nat) :
    ofPost (front ++ "/" ++ child.collection ++ slashes (m + 1)) [first, second, child.collection]
      = ofPost (front ++ "/" ++ child.collection ++ slashes (n + 1))
        [first, second, child.collection] := by
  rw [ofPost_collection, ofPost_collection, beforeLast?_slashes, beforeLast?_slashes,
    Option.getD_some, Option.getD_some, Handle.parse_slashes front child m n]

/-- So more slashes make no difference where there is one already. -/
theorem ofPost_more_slashes (h : segments? base url = some segments)
    (hslash : withoutSlashes url ≠ url) (n : Nat) :
    ofPost (url ++ slashes n) segments = ofPost url segments := by
  by_cases hthree : ∃ first second child, segments = [first, second, EntityKind.collection child]
  · obtain ⟨first, second, child, rfl⟩ := hthree
    obtain ⟨front, hfront⟩ := withoutSlashes_of_segments? h
    obtain ⟨m, hurl⟩ := eq_withoutSlashes_append url
    cases m with
    | zero => exact absurd (hurl.trans String.append_empty).symm hslash
    | succ m =>
        have hmore : url ++ slashes n
            = front ++ "/" ++ child.collection ++ slashes (m + n + 1) := by
          rw [hurl, hfront, String.append_assoc, ← slashes_add, Nat.add_right_comm]
        rw [hmore, hurl, hfront]
        exact ofPost_slashes front first second child (m + n) m
  · exact ofPost_of_no_collection fun first second child heq => hthree ⟨first, second, child, heq⟩

/-- Slashes at the end are no part of any segment. -/
theorem segments?_slashes (base rest : String) (n : Nat) :
    segments? base (base ++ ("/api/" ++ rest) ++ slashes n)
      = segments? base (base ++ ("/api/" ++ rest)) := by
  have hcut : ∀ more, segments? base (base ++ ("/api/" ++ more))
      = some (split '/' (withoutSlashes more)) := by
    intro more
    simp only [segments?, stripStart?_append, Option.bind_eq_bind, Option.bind_some,
      Option.pure_def]
  have hmore : base ++ ("/api/" ++ rest) ++ slashes n
      = base ++ ("/api/" ++ (rest ++ slashes n)) := by
    rw [String.append_assoc, String.append_assoc]
  rw [hmore, hcut, hcut, withoutSlashes_append_slashes]

end Route

/-! ## Requests -/

/-- The request with so many slashes put at the end of its URL. -/
def Request.withSlashes (n : Nat) (r : Request) : Request :=
  { r with url := r.url ++ slashes n }

@[simp] theorem Request.url_withSlashes (n : Nat) (r : Request) :
    (r.withSlashes n).url = r.url ++ slashes n := rfl

/-- Something is posted to a collection of an entity, and no slash stands at the end. -/
structure Request.NamesCollection (base : String) (r : Request) : Prop where
  posted : r.method = .post
  segments : ∃ first second child,
    Route.segments? base r.url = some [first, second, EntityKind.collection child]
  bare : withoutSlashes r.url = r.url

section Answer

variable {site : Site} {s : Store} {r : Request} {rest : String}

/-- Unless the request is one of those its route is the same. -/
theorem Route.find_withSlashes (hurl : r.url = site.baseUrl ++ ("/api/" ++ rest)) (n : Nat)
    (h : ¬ r.NamesCollection site.baseUrl) :
    find site.baseUrl r.method (r.withSlashes n).url = find site.baseUrl r.method r.url := by
  have hsegments : segments? site.baseUrl (r.withSlashes n).url = segments? site.baseUrl r.url := by
    rw [r.url_withSlashes, hurl, segments?_slashes]
  unfold find
  rw [hsegments]
  cases hfound : segments? site.baseUrl r.url with
  | none => rfl
  | some segments =>
      cases hmethod : r.method with
      | get => rfl
      | post =>
          by_cases hbare : withoutSlashes r.url = r.url
          · exact ofPost_of_no_collection fun first second child heq =>
              h ⟨hmethod, ⟨first, second, child, heq ▸ hfound⟩, hbare⟩
          · exact ofPost_more_slashes hfound hbare n

/-- With a slash at the end the collection is the id of what is read as the parent. -/
theorem Route.find_withSlashes_of_named (hurl : r.url = site.baseUrl ++ ("/api/" ++ rest))
    (h : r.NamesCollection site.baseUrl) (n : Nat) : ∃ front child,
      find site.baseUrl r.method (r.withSlashes (n + 1)).url =
        match (Handle.parse (front ++ "/" ++ EntityKind.collection child ++ slashes n)).toOption with
        | some parent => .ok (.link parent.uri child)
        | none => .error .noRoute := by
  obtain ⟨hmethod, ⟨first, second, child, hsegments⟩, hbare⟩ := h
  obtain ⟨front, hfront⟩ := withoutSlashes_of_segments? hsegments
  rw [hbare] at hfront
  have hfound : segments? site.baseUrl (r.withSlashes (n + 1)).url
      = some [first, second, child.collection] := by
    rw [r.url_withSlashes, hurl, segments?_slashes, ← hurl, hsegments]
  have hpost : find site.baseUrl r.method (r.withSlashes (n + 1)).url
      = ofPost (r.withSlashes (n + 1)).url [first, second, child.collection] := by
    unfold find
    rw [hfound, hmethod]
  refine ⟨front, child, ?_⟩
  rw [hpost, ofPost_collection, r.url_withSlashes, beforeLast?_slashes, Option.getD_some, hfront]

/-- And so there is no such route, or a parent that is not stored. -/
theorem Site.reply_withSlashes (hs : s.Sound site)
    (hurl : r.url = site.baseUrl ++ ("/api/" ++ rest)) (h : r.NamesCollection site.baseUrl)
    (n : Nat) : ∃ refusal : Refusal, refusal.status = 404 ∧
      site.reply (r.withSlashes (n + 1)) s = .error refusal := by
  obtain ⟨front, child, hroute⟩ := Route.find_withSlashes_of_named hurl h n
  cases hparse : Handle.parse (front ++ "/" ++ child.collection ++ slashes n) with
  | error e =>
      rw [hparse] at hroute
      exact ⟨.noRoute, rfl, congrArg (Except.bind · _) hroute⟩
  | ok parent =>
      rw [hparse] at hroute
      have hnone := hs.kindOf?_of_collection hparse (Handle.id_of_parse_slashes hparse)
      have hlink : link parent.uri child r.body s = .error (.notFound parent.uri) := by
        unfold link
        rw [hnone]
      exact ⟨.notFound parent.uri, rfl, (congrArg (Except.bind · _) hroute).trans hlink⟩

/-- Slashes at the end of the URL of a request to the connector make no difference to its answer
and to the next store, unless it is posted to a collection of an entity and has no slash at its end.
Such a request is answered with 404 as soon as it has one, and nothing is changed; so a link that
is made without it is not made with it. -/
theorem answer_withSlashes (site : Site) (s : Store) (r : Request)
    (hurl : r.url = site.baseUrl ++ ("/api/" ++ rest)) (n : Nat) :
    (¬ r.NamesCollection site.baseUrl → site.answer (r.withSlashes n) s = site.answer r s) ∧
    (r.NamesCollection site.baseUrl → site.Reachable s → 0 < n →
      (∃ refusal : Refusal, refusal.status = 404 ∧
        site.answer (r.withSlashes n) s = (refusal.response, s)) ∧
      ((site.answer r s).1.isSuccess = true →
        site.answer (r.withSlashes n) s ≠ site.answer r s)) := by
  constructor
  · intro h
    have hreply : site.reply (r.withSlashes n) s = site.reply r s :=
      congrArg (Except.bind · (site.handle r s)) (Route.find_withSlashes hurl n h)
    rw [Site.answer, Site.answer, hreply]
  · intro h hs hn
    obtain ⟨m, rfl⟩ := Nat.exists_eq_add_of_lt hn
    obtain ⟨refusal, hstatus, hreply⟩ := Site.reply_withSlashes hs.sound hurl h (0 + m)
    have hanswer : site.answer (r.withSlashes (0 + m + 1)) s = (refusal.response, s) := by
      rw [Site.answer, hreply]
    refine ⟨⟨refusal, hstatus, hanswer⟩, fun hok hsame => ?_⟩
    rw [← hsame, hanswer] at hok
    exact Bool.noConfusion (refusal.isSuccess_response.symm.trans hok)

end Answer

section Link

/-- A new connector in which a catalog and a resource were created. -/
def Store.catalogAndResource : Store :=
  (Site.counting "https://c").performAll .empty
    [.request (.post "https://c/api/catalogs" (some (.obj []))),
     .request (.post "https://c/api/resources" (some (.obj [])))]

/-- The request that adds the resource to the catalog. -/
def Request.resourceToCatalog : Request :=
  .post "https://c/api/catalogs/00000000-0000-0000-0000-000000000000/resources"
    (some (.texts ["https://c/api/resources/00000000-0000-0000-0000-000000000001"]))

theorem Request.url_resourceToCatalog : resourceToCatalog.url =
    "https://c" ++ ("/api/" ++ "catalogs/00000000-0000-0000-0000-000000000000/resources") := by
  decide +kernel

theorem Site.status_resourceToCatalog :
    ((Site.counting "https://c").answer .resourceToCatalog .catalogAndResource).1.status = 200 := by
  decide +kernel

/-- It is refused with a slash at the end. -/
theorem answer_withSlashes_link :
    let site := Site.counting "https://c"
    let s := Store.catalogAndResource
    let r := Request.resourceToCatalog
    r.NamesCollection site.baseUrl ∧ site.Reachable s ∧ (site.answer r s).1.isSuccess = true ∧
      ∃ refusal : Refusal, refusal.status = 404 ∧
        site.answer (r.withSlashes 1) s = (refusal.response, s) := by
  intro site s r
  have hnames : r.NamesCollection site.baseUrl :=
    ⟨rfl, ⟨"catalogs", "00000000-0000-0000-0000-000000000000", .resource, by decide +kernel⟩,
      by decide +kernel⟩
  have hreach : site.Reachable s := ⟨_, rfl⟩
  have hok : (site.answer r s).1.isSuccess = true := by
    rw [Response.isSuccess, Site.status_resourceToCatalog]
    rfl
  exact ⟨hnames, hreach, hok,
    ((answer_withSlashes site s r Request.url_resourceToCatalog 1).2 hnames hreach (by decide)).1⟩

/-- So slashes at the end do make a difference: the link is made without one and not with one. -/
theorem answer_withSlashes_differs :
    ¬ ∀ (site : Site) (s : Store) (r : Request) (rest : String) (n : Nat),
      site.Reachable s → r.url = site.baseUrl ++ ("/api/" ++ rest) →
        site.answer (r.withSlashes n) s = site.answer r s := by
  intro hall
  have hsame := hall (.counting "https://c") .catalogAndResource .resourceToCatalog
    "catalogs/00000000-0000-0000-0000-000000000000/resources" 1 ⟨_, rfl⟩
    Request.url_resourceToCatalog
  have hwith : ((Site.counting "https://c").answer (Request.resourceToCatalog.withSlashes 1)
      .catalogAndResource).1.status = 404 := by
    decide +kernel
  rw [hsame, Site.status_resourceToCatalog] at hwith
  exact absurd hwith (by decide)

end Link

end Dataspace
