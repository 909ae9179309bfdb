/-
What a link request does.

A link request is checked as a whole before anything changes.  The checks look at the
entities and never at the links: `Site.fitChildren` is what they come to, so a refused
request leaves no trace and the links that are there already decide no answer.  A request
that passes puts its links at the end, each unless it is there.  As a set the links are
then those of before and those requested; nothing else of the store is touched.
-/
import Dataspace.Proofs.Reach

namespace Dataspace

open Text

/-! ## The checks -/

namespace Site

variable {s t : Store} {parent : String} {kind child : EntityKind} {body : Option Json}

/-- The children that a link request lists, or the first thing found wrong with it. -/
def fitChildren (parent : String) (child : EntityKind) (body : Option Json) (s : Store) :
    Except Refusal (List String) :=
  match s.kindOf? parent with
  | none => .error (.notFound parent)
  | some kind =>
    if kind.accepts child then
      match body with
      | some (.arr items) => items.mapM (childUri s child)
      | _ => .error .invalidInput
    else .error (.noRelation kind child)

/-- All checks come first. -/
theorem link_eq (parent : String) (child : EntityKind) (body : Option Json) (s : Store) :
    link parent child body s
      = (fitChildren parent child body s).bind
          fun uris => unchanged (s.addLinks parent uris) (.object []) := by
  unfold link fitChildren
  cases s.kindOf? parent with
  | none => rfl
  | some kind =>
      by_cases haccepts : kind.accepts child = true
      · simp only [if_pos haccepts]
        rcases body with _ | body
        · rfl
        · cases body <;> rfl
      · simp only [if_neg haccepts]
        rfl

/-- Only the kinds of what is stored count for the checks. -/
theorem fitChildren_congr (h : s.kindOf? = t.kindOf?) (parent : String) (child : EntityKind)
    (body : Option Json) : fitChildren parent child body s = fitChildren parent child body t := by
  have hitems : childUri s child = childUri t child := by
    funext item
    unfold childUri
    rw [h]
  unfold fitChildren
  rw [h, hitems]

/-- Texts that name entities of the kind are fit, all together. -/
theorem mapM_childUri_of_kinds : ∀ {uris : List String},
    (∀ uri ∈ uris, s.kindOf? uri = some child) →
      (uris.map Json.str).mapM (childUri s child) = .ok uris
  | [], _ => rfl
  | uri :: rest, h => by
      obtain ⟨huri, hrest⟩ := List.forall_mem_cons.mp h
      have hfit : childUri s child (.str uri) = .ok uri := by
        simp only [childUri, huri, if_pos]
      rw [List.map_cons, List.mapM_cons, hfit, mapM_childUri_of_kinds hrest]
      rfl

/-- A request passes the checks if and only if its parent is stored and may have children of the
kind, and it lists texts that all name stored entities of the kind. -/
theorem fitChildren_eq_ok_iff {uris : List String} :
    fitChildren parent child body s = .ok uris ↔
      ∃ kind, s.kindOf? parent = some kind ∧ kind.accepts child = true ∧
        body = some (.texts uris) ∧ ∀ uri ∈ uris, s.kindOf? uri = some child := by
  constructor
  · intro h
    unfold fitChildren at h
    split at h
    · cases h
    · rename_i kind hparent
      split at h
      · rename_i haccepts
        split at h
        · rename_i items
          obtain ⟨rfl, hkinds⟩ := mapM_childUri_ok h
          exact ⟨kind, hparent, haccepts, rfl, hkinds⟩
        · cases h
      · cases h
  · rintro ⟨kind, hparent, haccepts, rfl, hkinds⟩
    unfold fitChildren
    rw [hparent]
    show (if kind.accepts child = true then (uris.map Json.str).mapM (childUri s child)
      else .error (.noRelation kind child)) = _
    rw [if_pos haccepts]
    exact mapM_childUri_of_kinds hkinds

/-! ## Answers to link requests -/

variable {site : Site} {r : Request}

/-- A link request is answered from its checks, and changes nothing unless it passes them. -/
theorem answer_link (hroute : Route.find site.baseUrl r.method r.url = .ok (.link parent child))
    (s : Store) :
    site.answer r s =
      match fitChildren parent child r.body s with
      | .ok uris => (.ofJson 200 (.object []), s.addLinks parent uris)
      | .error refusal => (refusal.response, s) := by
  have hreply : site.reply r s = link parent child r.body s := by
    rw [reply, hroute]
    rfl
  rw [answer, hreply, link_eq]
  cases fitChildren parent child r.body s with
  | ok uris => rfl
  | error refusal => rfl

/-- Link requests on stores with the same entities are answered alike. -/
theorem answer_link_congr
    (hroute : Route.find site.baseUrl r.method r.url = .ok (.link parent child))
    (h : s.kindOf? = t.kindOf?) : (site.answer r s).1 = (site.answer r t).1 := by
  rw [answer_link hroute, answer_link hroute, fitChildren_congr h]
  cases fitChildren parent child r.body t with
  | ok uris => rfl
  | error refusal => rfl

/-- What a link request leaves is the store with the links of the children it was fit for. -/
theorem answer_link_next
    (hroute : Route.find site.baseUrl r.method r.url = .ok (.link parent child)) (s : Store) :
    ∃ uris, (site.answer r s).2 = s.addLinks parent uris ∧
      (∀ uri ∈ uris, s.kindOf? uri = some child) ∧
      ∀ t : Store, t.kindOf? = s.kindOf? → (site.answer r t).2 = t.addLinks parent uris := by
  have hnext : ∀ t : Store, t.kindOf? = s.kindOf? →
      (site.answer r t).2 = t.addLinks parent
        ((fitChildren parent child r.body s).toOption.getD []) := by
    intro t ht
    rw [answer_link hroute, fitChildren_congr ht]
    cases fitChildren parent child r.body s with
    | ok uris => rfl
    | error refusal => rfl
  refine ⟨_, hnext s rfl, ?_, hnext⟩
  cases hfit : fitChildren parent child r.body s with
  | ok uris =>
      obtain ⟨-, -, -, -, hkinds⟩ := fitChildren_eq_ok_iff.mp hfit
      exact hkinds
  | error refusal => exact List.forall_mem_nil _

end Site

/-! ## The links as a set -/

namespace Store

/-- What is stored is under the URI of its kind. -/
theorem Sound.entityUri_of_kindOf? {site : Site} {s : Store} (hs : s.Sound site) {uri : String}
    {kind : EntityKind} (h : s.kindOf? uri = some kind) :
    ∃ id, IsId id ∧ uri = Route.entityUri site.baseUrl kind.collection id := by
  obtain ⟨e, he, rfl⟩ := entity?_of_kindOf? h
  obtain ⟨n, -, huri⟩ := hs.addressed _ (mem_of_entity? he)
  exact ⟨_, (site.uuids n).isId_text, huri⟩

variable {parent : String} {uris : List String} {s : Store}

/-- Nothing but the links changes. -/
theorem addLinks_with (s : Store) (parent : String) (uris : List String) :
    s.addLinks parent uris = { s with links := (s.addLinks parent uris).links } := by
  obtain ⟨added, heq, -⟩ := addLinks_eq parent uris s
  rw [heq]

theorem kindOf?_addLinks (s : Store) (parent : String) (uris : List String) :
    (s.addLinks parent uris).kindOf? = s.kindOf? := by
  rw [addLinks_with]
  rfl

theorem addLinks_cons (s : Store) (parent uri : String) (rest : List String) :
    s.addLinks parent (uri :: rest) = (s.addLink parent uri).addLinks parent rest :=
  rfl

theorem mem_links_addLink {l : String × String} {child : String} :
    l ∈ (s.addLink parent child).links ↔ l ∈ s.links ∨ l = (parent, child) := by
  by_cases hin : (parent, child) ∈ s.links
  · rw [addLink_of_mem hin]
    constructor
    · exact Or.inl
    · rintro (hl | rfl)
      · exact hl
      · exact hin
  · rw [addLink_of_not_mem hin]
    exact List.mem_append.trans (or_congr Iff.rfl List.mem_singleton)

/-- The links of before and those added. -/
theorem mem_links_addLinks {l : String × String} :
    l ∈ (s.addLinks parent uris).links ↔ l ∈ s.links ∨ ∃ uri ∈ uris, l = (parent, uri) := by
  induction uris generalizing s with
  | nil =>
      refine ⟨Or.inl, ?_⟩
      rintro (hl | ⟨uri, huri, -⟩)
      · exact hl
      · exact absurd huri List.not_mem_nil
  | cons uri rest ih =>
      rw [addLinks_cons, ih, mem_links_addLink, or_assoc]
      simp only [List.mem_cons, exists_eq_or_imp]

theorem nodup_links_addLinks (h : s.links.Nodup) (parent : String) (uris : List String) :
    (s.addLinks parent uris).links.Nodup := by
  obtain ⟨added, heq, -, hnodup⟩ := addLinks_eq parent uris s
  rw [heq]
  exact hnodup h

/-- Links that are all there are not added again. -/
theorem addLinks_of_forall_mem (h : ∀ uri ∈ uris, (parent, uri) ∈ s.links) :
    s.addLinks parent uris = s := by
  induction uris with
  | nil => rfl
  | cons uri rest ih =>
      obtain ⟨huri, hrest⟩ := List.forall_mem_cons.mp h
      rw [addLinks_cons, addLink_of_mem huri]
      exact ih hrest

/-- Adding links once more changes nothing. -/
theorem addLinks_addLinks (s : Store) (parent : String) (uris : List String) :
    (s.addLinks parent uris).addLinks parent uris = s.addLinks parent uris := by
  refine addLinks_of_forall_mem ?_
  intro uri huri
  exact mem_links_addLinks.mpr (Or.inr ⟨uri, huri, rfl⟩)

end Store

end Dataspace
