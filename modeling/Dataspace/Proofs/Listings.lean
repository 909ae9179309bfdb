/-
Lists of children and of parents.

Both are views of one list of links.  None has an entity twice, and a child is in its
parent's list if and only if the parent is in the child's.  A link request that passes its
checks puts the children that its parent has not got yet at the end of their list, each
once and in the order in which it names them: that is `orderedUnion`.  Every other list
stays as it is, although all of them are kept in the same links.
-/
import Dataspace.Proofs.Linking

namespace Dataspace

open Text

/-! ## Ordered unions -/

section Union

variable {α : Type} [DecidableEq α] {listed : List α} {x : α}

/-- A list with the elements of another that are new to it at its end, each once and in the order
in which they first occur. -/
def orderedUnion (listed more : List α) : List α :=
  listed ++ (more.filter (· ∉ listed)).eraseDups

theorem orderedUnion_nil (listed : List α) : orderedUnion listed [] = listed :=
  List.append_nil listed

theorem orderedUnion_cons_of_mem (h : x ∈ listed) (more : List α) :
    orderedUnion listed (x :: more) = orderedUnion listed more := by
  rw [orderedUnion, List.filter_cons_of_neg (by simpa using h)]
  rfl

theorem orderedUnion_cons_of_not_mem (h : x ∉ listed) (more : List α) :
    orderedUnion listed (x :: more) = orderedUnion (listed ++ [x]) more := by
  have hrest : (more.filter (· ∉ listed)).filter (fun y => !y == x)
      = more.filter (· ∉ listed ++ [x]) := by
    rw [List.filter_filter]
    refine List.filter_congr ?_
    intro y _
    by_cases hy : y = x
    · simp [hy]
    · simp [hy]
  rw [orderedUnion, List.filter_cons_of_pos (by simpa using h), List.eraseDups_cons, hrest,
    orderedUnion, List.append_assoc]
  rfl

end Union

/-! ## Two views of the links -/

namespace Store

/-! One end of each link is given, the other one is listed if it passes a test. -/

section Ends

variable {links : List (String × String)} (near far : String × String → String)
  (p : String → Bool) {x y : String}

theorem mem_ends :
    y ∈ (links.filter fun l => near l == x && p (far l)).map far ↔
      (∃ l ∈ links, near l = x ∧ far l = y) ∧ p y = true := by
  constructor
  · intro h
    obtain ⟨l, hl, rfl⟩ := List.mem_map.mp h
    obtain ⟨hlink, hboth⟩ := List.mem_filter.mp hl
    obtain ⟨hnear, hfar⟩ := Bool.and_eq_true_iff.mp hboth
    exact ⟨⟨l, hlink, eq_of_beq hnear, rfl⟩, hfar⟩
  · rintro ⟨⟨l, hlink, rfl, rfl⟩, hfar⟩
    have hboth := Bool.and_eq_true_iff.mpr ⟨beq_self_eq_true (near l), hfar⟩
    exact List.mem_map.mpr ⟨l, List.mem_filter.mpr ⟨hlink, hboth⟩, rfl⟩

/-- Links that are made once have different far ends where they have the same near end. -/
theorem nodup_ends (h : links.Nodup) (hends : ∀ l m, near l = near m → far l = far m → l = m) :
    ((links.filter fun l => near l == x && p (far l)).map far).Nodup := by
  refine List.pairwise_map.mpr ((h.sublist List.filter_sublist).imp_of_mem ?_)
  intro l m hl hm hne heq
  have hl' := eq_of_beq (Bool.and_eq_true_iff.mp (List.mem_filter.mp hl).2).1
  have hm' := eq_of_beq (Bool.and_eq_true_iff.mp (List.mem_filter.mp hm).2).1
  exact hne (hends l m (hl'.trans hm'.symm) heq)

end Ends

variable {s : Store} {parent child other : String} {kind k : EntityKind}

theorem mem_children :
    child ∈ s.children parent kind ↔ (parent, child) ∈ s.links ∧ s.kindOf? child = some kind := by
  refine (mem_ends Prod.fst Prod.snd fun uri => s.kindOf? uri == some kind).trans
    (and_congr ⟨?_, ?_⟩ beq_iff_eq)
  · rintro ⟨l, hl, rfl, rfl⟩
    exact hl
  · intro hl
    exact ⟨_, hl, rfl, rfl⟩

theorem mem_parents :
    parent ∈ s.parents child kind ↔ (parent, child) ∈ s.links ∧ s.kindOf? parent = some kind := by
  refine (mem_ends Prod.snd Prod.fst fun uri => s.kindOf? uri == some kind).trans
    (and_congr ⟨?_, ?_⟩ beq_iff_eq)
  · rintro ⟨l, hl, rfl, rfl⟩
    exact hl
  · intro hl
    exact ⟨_, hl, rfl, rfl⟩

theorem nodup_children (h : s.links.Nodup) (parent : String) (kind : EntityKind) :
    (s.children parent kind).Nodup :=
  nodup_ends Prod.fst Prod.snd (fun uri => s.kindOf? uri == some kind) h fun _ _ => Prod.ext

theorem nodup_parents (h : s.links.Nodup) (child : String) (kind : EntityKind) :
    (s.parents child kind).Nodup :=
  nodup_ends Prod.snd Prod.fst (fun uri => s.kindOf? uri == some kind) h
    fun _ _ hchild hparent => Prod.ext hparent hchild

/-! ## Lists after a link request -/

/-- A new link shows in the list of its parent and of its child's kind. -/
theorem children_append_link (s : Store) (parent child : String) (other : String)
    (k : EntityKind) :
    Store.children { s with links := s.links ++ [(parent, child)] } other k
      = s.children other k
        ++ if parent = other ∧ s.kindOf? child = some k then [child] else [] := by
  show ((s.links ++ [(parent, child)]).filter _).map Prod.snd = _
  rw [List.filter_append, List.map_append]
  by_cases hshows : parent = other ∧ s.kindOf? child = some k
  · have hkeep : (parent == other && s.kindOf? child == some k) = true :=
      Bool.and_eq_true_iff.mpr ⟨beq_iff_eq.mpr hshows.1, beq_iff_eq.mpr hshows.2⟩
    rw [if_pos hshows]
    exact congrArg (s.children other k ++ ·)
      (congrArg (List.map Prod.snd) (List.filter_cons_of_pos hkeep))
  · have hdrop : ¬ (parent == other && s.kindOf? child == some k) = true := by
      intro h
      obtain ⟨hparent, hkind⟩ := Bool.and_eq_true_iff.mp h
      exact hshows ⟨eq_of_beq hparent, eq_of_beq hkind⟩
    rw [if_neg hshows]
    exact congrArg (s.children other k ++ ·)
      (congrArg (List.map Prod.snd) (List.filter_cons_of_neg hdrop))

/-- The children of the requested kind are united with those requested. -/
theorem children_addLinks {uris : List String} (h : ∀ uri ∈ uris, s.kindOf? uri = some kind) :
    (s.addLinks parent uris).children parent kind
      = orderedUnion (s.children parent kind) uris := by
  induction uris generalizing s with
  | nil => exact (orderedUnion_nil _).symm
  | cons uri rest ih =>
      obtain ⟨huri, hrest⟩ := List.forall_mem_cons.mp h
      rw [addLinks_cons]
      by_cases hin : (parent, uri) ∈ s.links
      · rw [addLink_of_mem hin, orderedUnion_cons_of_mem (mem_children.mpr ⟨hin, huri⟩)]
        exact ih hrest
      · have hnew : uri ∉ s.children parent kind := fun hc => hin (mem_children.mp hc).1
        have hone := s.children_append_link parent uri parent kind
        rw [if_pos ⟨rfl, huri⟩] at hone
        rw [addLink_of_not_mem hin, orderedUnion_cons_of_not_mem hnew, ← hone]
        exact ih hrest

/-- Every other list of children stays. -/
theorem children_addLinks_of_ne {uris : List String}
    (h : ∀ uri ∈ uris, s.kindOf? uri = some kind) (hne : (other, k) ≠ (parent, kind)) :
    (s.addLinks parent uris).children other k = s.children other k := by
  induction uris generalizing s with
  | nil => rfl
  | cons uri rest ih =>
      obtain ⟨huri, hrest⟩ := List.forall_mem_cons.mp h
      rw [addLinks_cons]
      by_cases hin : (parent, uri) ∈ s.links
      · rw [addLink_of_mem hin]
        exact ih hrest
      · have hhidden : ¬ (parent = other ∧ s.kindOf? uri = some k) := by
          rintro ⟨rfl, hk⟩
          exact hne (congrArg (parent, ·) (Option.some.inj (hk.symm.trans huri)))
        have hone := s.children_append_link parent uri other k
        rw [if_neg hhidden, List.append_nil] at hone
        rw [addLink_of_not_mem hin, ← hone]
        exact ih hrest

end Store

/-! ## The requests -/

section Requests

variable {site : Site} {s : Store} {parent : String} {kind child : EntityKind}

/-- A list of children is read from the URI of the parent and the collection. -/
theorem Route.find_children {id : String} (base : String) (kind child : EntityKind) (hid : IsId id) :
    find base .get (entityUri base kind.collection id ++ "/" ++ child.collection)
      = .ok (.children (entityUri base kind.collection id) child) := by
  have hurl : entityUri base kind.collection id ++ "/" ++ child.collection
      = base ++ ("/api/" ++ (kind.collection ++ String.singleton '/' ++ id
          ++ String.singleton '/' ++ child.collection)) := by
    have hslash : String.singleton '/' = "/" := by decide +kernel
    simp [entityUri_eq, hslash, String.append_assoc]
  have hne : child.collection.toList ≠ [] := by
    cases child <;> decide
  have hdata : child.collection ≠ "data" := by
    cases child <;> decide
  rw [find, hurl, segments?_triple kind.slash_not_mem_collection hid.no_slash
    child.slash_not_mem_collection hne]
  show ofGet base [kind.collection, id, child.collection] = _
  unfold ofGet
  split
  · rename_i hsegments
    simp at hsegments
  · rename_i hsegments
    simp only [List.cons.injEq] at hsegments
    exact absurd hsegments.2.2.1 hdata
  · rename_i hsegments
    simp only [List.cons.injEq, and_true] at hsegments
    obtain ⟨rfl, rfl, rfl⟩ := hsegments
    rw [EntityKind.ofCollection?_collection]
  · rename_i hother
    exact absurd rfl (hother kind.collection id child.collection)

theorem Site.answer_children (hs : s.Sound site) (hparent : s.kindOf? parent = some kind)
    (child : EntityKind) :
    site.answer (.get (parent ++ "/" ++ child.collection)) s
      = (.ofJson 200 (.texts (s.children parent child)), s) := by
  obtain ⟨id, hid, rfl⟩ := hs.entityUri_of_kindOf? hparent
  obtain ⟨e, he, -⟩ := Store.entity?_of_kindOf? hparent
  have hroute := Route.find_children site.baseUrl kind child hid
  have hlist : readChildren (Route.entityUri site.baseUrl kind.collection id) child s
      = .ok (.ofJson 200 (.texts (s.children (Route.entityUri site.baseUrl kind.collection id)
          child)), s) := by
    rw [readChildren, he]
    rfl
  have hreply : site.reply (.get (Route.entityUri site.baseUrl kind.collection id ++ "/"
      ++ child.collection)) s = _ := (congrArg (Except.bind · _) hroute).trans hlist
  rw [answer, hreply]

/-- The URL of a list of children of what is stored is where children are added to it. -/
theorem Store.Sound.find_link (hs : s.Sound site) (hbase : startsBlank site.baseUrl = false)
    (hparent : s.kindOf? parent = some kind) (child : EntityKind) :
    Route.find site.baseUrl .post (parent ++ "/" ++ child.collection)
      = .ok (.link parent child) := by
  obtain ⟨id, hid, rfl⟩ := hs.entityUri_of_kindOf? hparent
  exact Route.find_link hbase hid kind child

/-- A body is fit for a stored parent whose kind accepts the children's if it lists texts that all
name stored entities of the kind, and only then. -/
theorem Site.exists_fitChildren_iff {body : Json} (hparent : s.kindOf? parent = some kind) :
    (∃ uris, fitChildren parent child (some body) s = .ok uris) ↔ kind.accepts child = true ∧
      ∃ uris, body = .texts uris ∧ ∀ uri ∈ uris, s.kindOf? uri = some child := by
  constructor
  · rintro ⟨uris, huris⟩
    obtain ⟨k, hk, haccepts, hbody, hkinds⟩ := fitChildren_eq_ok_iff.mp huris
    obtain rfl := Option.some.inj (hk.symm.trans hparent)
    exact ⟨haccepts, uris, Option.some.inj hbody, hkinds⟩
  · rintro ⟨haccepts, uris, rfl, hkinds⟩
    exact ⟨uris, fitChildren_eq_ok_iff.mpr ⟨kind, hparent, haccepts, rfl, hkinds⟩⟩

/-- A link request is answered with 200 if it passes the checks, and only then. -/
theorem Site.status_link_iff {r : Request}
    (hroute : Route.find site.baseUrl r.method r.url = .ok (.link parent child)) :
    (site.answer r s).1.status = 200 ↔ ∃ uris, fitChildren parent child r.body s = .ok uris := by
  rw [answer_link hroute]
  cases fitChildren parent child r.body s with
  | ok uris => exact iff_of_true rfl ⟨uris, rfl⟩
  | error refusal =>
      refine iff_of_false ?_ ?_
      · intro hstatus
        have hfail := refusal.isSuccess_response
        rw [Response.isSuccess, hstatus] at hfail
        cases hfail
      · rintro ⟨uris, huris⟩
        cases huris

/-- Once a request has passed, it passes again and changes nothing. -/
theorem Site.answer_link_again {r : Request} {uris : List String}
    (hroute : Route.find site.baseUrl r.method r.url = .ok (.link parent child))
    (hfit : fitChildren parent child r.body s = .ok uris) :
    site.answer r (s.addLinks parent uris)
      = (.ofJson 200 (.object []), s.addLinks parent uris) := by
  have hagain := fitChildren_congr (s.kindOf?_addLinks parent uris) parent child r.body
  rw [answer_link hroute, hagain, hfit]
  show (_, (s.addLinks parent uris).addLinks parent uris) = _
  rw [Store.addLinks_addLinks]

end Requests

theorem Json.texts_injective {ss ts : List String} (h : Json.texts ss = Json.texts ts) :
    ss = ts :=
  (List.map_inj_right fun _ _ hstr => Json.str.inj hstr).mp (Json.arr.inj h)

/-- Linking is an ordered union.  Where the base URL does not begin with a blank, children of a kind
are added to a stored parent if and only if its kind accepts theirs and the body lists texts that
all name stored entities of the kind.  Reading the list then gives what it gave before with those
of the request that are new at its end; no other list changes, and the same request once more
changes nothing.  In every store that a connector comes to, an entity is in the list of its parent
if and only if the parent is in its own, and nothing is in a list twice. -/
theorem links_unite {site : Site} {s : Store} (hs : site.Reachable s) :
    (∀ parent kind child body, startsBlank site.baseUrl = false → s.kindOf? parent = some kind →
      let url := parent ++ "/" ++ child.collection
      let request := Request.post url (some body)
      let next := (site.answer request s).2
      ((site.answer request s).1.status = 200 ↔ kind.accepts child = true ∧
        ∃ uris, body = .texts uris ∧ ∀ uri ∈ uris, s.kindOf? uri = some child) ∧
      ∀ uris, body = .texts uris → (site.answer request s).1.status = 200 →
        site.answer (.get url) s = (.ofJson 200 (.texts (s.children parent child)), s) ∧
        site.answer (.get url) next
          = (.ofJson 200 (.texts (orderedUnion (s.children parent child) uris)), next) ∧
        (∀ other k, (other, k) ≠ (parent, child) →
          next.children other k = s.children other k) ∧
        site.answer request next = ((site.answer request s).1, next)) ∧
    ∀ p c kind child, s.kindOf? p = some kind → s.kindOf? c = some child →
      (c ∈ s.children p child ↔ p ∈ s.parents c kind) ∧
        (s.children p child).count c ≤ 1 ∧ (s.parents c kind).count p ≤ 1 := by
  have hsound := hs.sound
  constructor
  · intro parent kind child body hbase hparent url request next
    have hroute : Route.find site.baseUrl request.method request.url = .ok (.link parent child) :=
      hsound.find_link hbase hparent child
    have hstatus_iff := (Site.status_link_iff (s := s) hroute).trans
      (Site.exists_fitChildren_iff hparent)
    refine ⟨hstatus_iff, ?_⟩
    intro uris hbody hstatus
    obtain ⟨haccepts, listed, hlisted, hkinds⟩ := hstatus_iff.mp hstatus
    obtain rfl := Json.texts_injective (hbody.symm.trans hlisted)
    have hpass : Site.fitChildren parent child request.body s = .ok uris :=
      Site.fitChildren_eq_ok_iff.mpr ⟨kind, hparent, haccepts, congrArg some hbody, hkinds⟩
    have hanswer : site.answer request s
        = (.ofJson 200 (.object []), s.addLinks parent uris) := by
      rw [Site.answer_link hroute, hpass]
    have hnext : next = s.addLinks parent uris := congrArg Prod.snd hanswer
    have hthere : next.kindOf? parent = some kind := by
      rw [hnext, Store.kindOf?_addLinks]
      exact hparent
    have hkept : next.Sound site := by
      rw [hnext]
      exact Store.sound_addLinks hsound hparent haccepts hkinds
    have hunited : next.children parent child = orderedUnion (s.children parent child) uris := by
      rw [hnext]
      exact Store.children_addLinks hkinds
    refine ⟨Site.answer_children hsound hparent child, ?_, ?_, ?_⟩
    · rw [← hunited]
      exact Site.answer_children hkept hthere child
    · intro other k hne
      rw [hnext]
      exact Store.children_addLinks_of_ne hkinds hne
    · rw [hanswer, hnext]
      exact Site.answer_link_again hroute hpass
  · intro p c kind child hp hc
    refine ⟨?_, ?_, ?_⟩
    · rw [Store.mem_children, Store.mem_parents]
      exact and_congr_right fun _ => iff_of_true hc hp
    · exact List.nodup_iff_count.mp (Store.nodup_children hsound.linkedOnce p child) c
    · exact List.nodup_iff_count.mp (Store.nodup_parents hsound.linkedOnce c kind) p

/-- Two rules are added to a contract, the second of them before and after the first. -/
theorem links_unite_rules :
    let site := Site.counting "https://c"
    let s := site.performAll .empty
      [.request (.post "https://c/api/contracts" (some (.obj []))),
       .request (.post "https://c/api/rules" (some (.obj []))),
       .request (.post "https://c/api/rules" (some (.obj [])))]
    let parent := "https://c/api/contracts/00000000-0000-0000-0000-000000000000"
    let first := "https://c/api/rules/00000000-0000-0000-0000-000000000001"
    let second := "https://c/api/rules/00000000-0000-0000-0000-000000000002"
    let request := Request.post (parent ++ "/rules") (some (.texts [second, first, second]))
    let next := (site.answer request s).2
    site.Reachable s ∧ startsBlank site.baseUrl = false ∧ s.kindOf? parent = some .contract ∧
      (site.answer request s).1.status = 200 ∧
      site.answer (.get (parent ++ "/rules")) s = (.ofJson 200 (.texts []), s) ∧
      site.answer (.get (parent ++ "/rules")) next
        = (.ofJson 200 (.texts [second, first]), next) ∧
      site.answer request next = ((site.answer request s).1, next) := by
  intro site s parent first second request next
  have hreach : site.Reachable s := ⟨_, rfl⟩
  have hbase : startsBlank site.baseUrl = false := by decide +kernel
  have hthere : s.children parent .rule = [] ∧ s.kindOf? parent = some .contract ∧
      ∀ uri ∈ [second, first, second], s.kindOf? uri = some .rule := by decide +kernel
  obtain ⟨hlisted, hparent, hkinds⟩ := hthere
  obtain ⟨hiff, hunited⟩ := (links_unite hreach).1 parent .contract .rule
    (.texts [second, first, second]) hbase hparent
  have hstatus : (site.answer request s).1.status = 200 :=
    hiff.mpr ⟨rfl, _, rfl, hkinds⟩
  obtain ⟨hbefore, hafter, -, hagain⟩ := hunited _ rfl hstatus
  have hunion : orderedUnion [] [second, first, second] = [second, first] := by decide +kernel
  rw [hlisted] at hbefore hafter
  rw [hunion] at hafter
  exact ⟨hreach, hbase, hparent, hstatus, hbefore, hafter, hagain⟩

end Dataspace
