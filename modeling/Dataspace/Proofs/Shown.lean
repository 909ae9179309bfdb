/-
What descriptions show.

A description is a view of the links, up to three levels deep.  What it is to show is said
here without the functions that make it: a list in it belongs to the entities of one kind
that one parent is linked to (`Store.Linked`), and has one entry for each of them, in the
order of the links, that shows that entity.  There is one such predicate for each kind, and
the functions meet them from the innermost to the outermost.  The permissions of a contract
are the delicate list, since a rule that is not found is left out of it and every
permission behind it moves up; but what is linked as a rule is stored as one.
-/
import Mathlib.Data.List.Forall2
import Dataspace.Proofs.Asking
import Dataspace.Proofs.Listings

namespace Dataspace

/-! ## Lists with an entry for each element -/

section Entries

variable {α β : Type} {R : α → β → Prop} {xs : List α}

theorem forall₂_map_self {f : α → β} (h : ∀ x ∈ xs, R x (f x)) : List.Forall₂ R xs (xs.map f) :=
  List.forall₂_map_right_iff.mpr (List.forall₂_same.mpr h)

/-- Where there is a value for every element, none is left out. -/
theorem forall₂_filterMap_self {f : α → Option β} (h : ∀ x ∈ xs, ∃ y, f x = some y ∧ R x y) :
    List.Forall₂ R xs (xs.filterMap f) := by
  induction xs with
  | nil => exact .nil
  | cons x rest ih =>
      obtain ⟨⟨y, hy, hxy⟩, hrest⟩ := List.forall_mem_cons.mp h
      rw [List.filterMap_cons_some hy]
      exact .cons hxy (ih hrest)

end Entries

namespace Store

variable {s : Store}

/-! ## What is linked -/

/-- These are the entities of one kind that a parent is linked to: all of them, each once, and in
the order in which they were linked. -/
structure Linked (s : Store) (parent : String) (kind : EntityKind) (uris : List String) : Prop where
  mem_iff : ∀ uri, uri ∈ uris ↔ (parent, uri) ∈ s.links ∧ s.kindOf? uri = some kind
  once : uris.Nodup
  inOrder : (uris.map (parent, ·)).Sublist s.links

theorem linked_children (h : s.links.Nodup) (parent : String) (kind : EntityKind) :
    s.Linked parent kind (s.children parent kind) where
  mem_iff _ := mem_children
  once := nodup_children h parent kind
  inOrder := by
    have hpairs : ∀ l ∈ s.links.filter fun l => l.1 == parent && s.kindOf? l.2 == some kind,
        ((parent, ·) ∘ Prod.snd) l = l := by
      intro l hl
      obtain ⟨-, hboth⟩ := List.mem_filter.mp hl
      exact Prod.ext (eq_of_beq (Bool.and_eq_true_iff.mp hboth).1).symm rfl
    rw [children, List.map_map, List.map_congr_left hpairs, List.map_id']
    exact List.filter_sublist

/-- Under a key, a value has an array with one entry for each linked entity, in the order of the
links. -/
def Lists (s : Store) (v : Json) (key parent : String) (kind : EntityKind)
    (Entry : String → Json → Prop) : Prop :=
  ∃ uris entries, s.Linked parent kind uris ∧ v.get? key = some (.arr entries) ∧
    List.Forall₂ Entry uris entries

section Lists

variable {v : Json} {key parent : String} {kind : EntityKind} {Entry : String → Json → Prop}

theorem lists_map (entry : String → Json) (hlinks : s.links.Nodup)
    (hv : v.get? key = some (.arr ((s.children parent kind).map entry)))
    (hentry : ∀ uri, s.kindOf? uri = some kind → Entry uri (entry uri)) :
    s.Lists v key parent kind Entry :=
  ⟨_, _, s.linked_children hlinks parent kind, hv,
    forall₂_map_self fun uri huri => hentry uri (mem_children.mp huri).2⟩

end Lists

/-! ## Rules -/

/-- The JSON value of a text, or the text where it is not JSON. -/
def ReadsAs (text : String) (v : Json) : Prop :=
  Json.parse? text = some v ∨ Json.parse? text = none ∧ v = .str text

theorem readsAs_rulePolicy (fields : Json) : ReadsAs (valueText fields) (rulePolicy fields) := by
  show ReadsAs _ ((Json.parse? (valueText fields)).getD (.str (valueText fields)))
  cases hread : Json.parse? (valueText fields) with
  | some v => exact Or.inl hread
  | none => exact Or.inr ⟨hread, rfl⟩

/-- The entry shows the policy of a rule that is stored. -/
def ShowsRule (s : Store) (rule : String) (entry : Json) : Prop :=
  ∃ fields text, s.entity? rule = some ⟨.rule, fields⟩ ∧ HasValue fields text ∧ ReadsAs text entry

theorem forall₂_showsRule {rules : List String} (h : ∀ rule ∈ rules, s.kindOf? rule = some .rule) :
    List.Forall₂ s.ShowsRule rules
      ((rules.filterMap s.entity?).map fun e => rulePolicy e.fields) := by
  refine List.forall₂_map_right_iff.mpr (forall₂_filterMap_self ?_)
  intro rule hrule
  obtain ⟨⟨kind, fields⟩, he, rfl⟩ := entity?_of_kindOf? (h rule hrule)
  exact ⟨_, he, fields, _, he, hasValue_valueText fields, readsAs_rulePolicy fields⟩

/-! ## The kinds that show more than their URI -/

/-- The entry has the URI as its id. -/
def ShowsId (uri : String) (entry : Json) : Prop :=
  entry.get? "@id" = some (.str uri)

structure ShowsContract (s : Store) (contract : String) (entry : Json) : Prop where
  id : ShowsId contract entry
  permissions : s.Lists entry "ids:permission" contract .rule s.ShowsRule

structure ShowsRepresentation (s : Store) (representation : String) (entry : Json) : Prop where
  id : ShowsId representation entry
  instances : s.Lists entry "ids:instance" representation .artifact ShowsId

structure ShowsResource (s : Store) (resource : String) (doc : Json) : Prop where
  id : ShowsId resource doc
  offers : s.Lists doc "ids:contractOffer" resource .contract s.ShowsContract
  representations : s.Lists doc "ids:representation" resource .representation s.ShowsRepresentation

structure ShowsCatalog (s : Store) (catalog : String) (entry : Json) : Prop where
  id : ShowsId catalog entry
  resources : s.Lists entry "ids:offeredResource" catalog .resource ShowsId

/-- The document has all catalogs in strictly ascending order. -/
def ShowsCatalogs (s : Store) (doc : Json) : Prop :=
  ∃ uris entries, (∀ uri, uri ∈ uris ↔ s.kindOf? uri = some .catalog) ∧
    uris.Pairwise (· < ·) ∧ doc.get? "ids:resourceCatalog" = some (.arr entries) ∧
    List.Forall₂ s.ShowsCatalog uris entries

section Shows

variable (h : s.links.Nodup)
include h

theorem showsContract (contract : String) :
    s.ShowsContract contract (s.describeContract contract) where
  id := by simp [ShowsId, describeContract, Json.get?_object, Keyed.lookup]
  permissions := by
    refine ⟨_, _, s.linked_children h contract .rule, ?_,
      forall₂_showsRule fun rule hrule => (mem_children.mp hrule).2⟩
    simp [describeContract, Json.get?_object, Keyed.lookup]

theorem showsRepresentation (representation : String) :
    s.ShowsRepresentation representation (s.describeRepresentation representation) where
  id := by simp [ShowsId, describeRepresentation, Json.get?_object, Keyed.lookup]
  instances := by
    refine lists_map describeArtifact h ?_ ?_
    · simp [describeRepresentation, Json.get?_object, Keyed.lookup]
    · intro artifact _
      simp [ShowsId, describeArtifact, Json.get?_object, Keyed.lookup]

theorem showsResource (resource : String) :
    s.ShowsResource resource (s.describeResource resource) where
  id := by simp [ShowsId, describeResource, Json.get?_object, Keyed.lookup]
  offers := by
    refine lists_map s.describeContract h ?_ fun uri _ => showsContract h uri
    simp [describeResource, Json.get?_object, Keyed.lookup]
  representations := by
    refine lists_map s.describeRepresentation h ?_ fun uri _ => showsRepresentation h uri
    simp [describeResource, Json.get?_object, Keyed.lookup]

theorem showsCatalog (catalog : String) :
    s.ShowsCatalog catalog (s.describeCatalog catalog) where
  id := by simp [ShowsId, describeCatalog, Json.get?_object, Keyed.lookup]
  resources := by
    refine lists_map (fun uri => .object [("@id", .str uri)]) h ?_ ?_
    · simp [describeCatalog, Json.get?_object, Keyed.lookup]
    · intro resource _
      simp [ShowsId, Json.get?_object, Keyed.lookup]

end Shows

/-! ## The connector -/

section Catalogs

variable {kind : EntityKind} (h : Keyed.Ascending s.entities)
include h

theorem mem_urisOf {uri : String} : uri ∈ s.urisOf kind ↔ s.kindOf? uri = some kind := by
  constructor
  · intro huri
    obtain ⟨⟨_, e⟩, he, rfl⟩ := List.mem_map.mp huri
    obtain ⟨hin, hkind⟩ := List.mem_filter.mp he
    have hfound : s.entity? _ = some e := Keyed.lookup_of_mem h hin
    rw [kindOf?, hfound]
    exact congrArg some (eq_of_beq hkind)
  · intro huri
    obtain ⟨e, he, hkind⟩ := entity?_of_kindOf? huri
    exact List.mem_map.mpr
      ⟨(uri, e), List.mem_filter.mpr ⟨mem_of_entity? he, beq_iff_eq.mpr hkind⟩, rfl⟩

theorem pairwise_urisOf : (s.urisOf kind).Pairwise (· < ·) :=
  List.pairwise_map.mpr (h.sublist List.filter_sublist)

theorem showsCatalogs (hlinks : s.links.Nodup) (baseUrl : String) :
    s.ShowsCatalogs (s.describeSelf baseUrl) := by
  refine ⟨s.urisOf .catalog, _, fun uri => mem_urisOf h, pairwise_urisOf h, ?_,
    forall₂_map_self fun uri _ => showsCatalog hlinks uri⟩
  simp [describeSelf, Json.get?_object, Keyed.lookup]

end Catalogs

end Store

/-! ## The answers -/

theorem Site.send_describe_self (site : Site) (s : Store) (recipient : Option String) :
    site.transport.send (Client.describeRequest site.baseUrl recipient none) s
      = (.ok (.ofJson 200 (s.describeSelf site.baseUrl)), s) :=
  send_of_reply (site.reply_describeRequest s recipient none)

/-- Whoever asks, the description of a stored resource has as its contract offers the contracts that
are linked to it, each with a permission for each rule that is linked to the contract, and as its
representations those that are linked to it, each with the artifacts that are linked to them.
Without an element, the description has every catalog, by URI, with the resources that are linked
to it.  Each of these lists has one entry for each linked entity of its kind, so for stored ones
only, and the entries are in the order of the links; there are no links to anything that is not
stored, so the lists leave nothing out.  A permission is the JSON value of the rule's text, or the
text if it is not JSON. -/
theorem descriptions_exact {site : Site} {s : Store} (hs : site.Reachable s)
    (recipient : Option String) :
    (∀ resource, s.kindOf? resource = some .resource → ∃ doc,
      site.transport.send (Client.describeRequest site.baseUrl recipient (some resource)) s
        = (.ok (.ofJson 200 doc), s) ∧
      s.ShowsResource resource doc) ∧
    (∃ doc,
      site.transport.send (Client.describeRequest site.baseUrl recipient none) s
        = (.ok (.ofJson 200 doc), s) ∧
      s.ShowsCatalogs doc) ∧
    ∀ l ∈ s.links, ∃ parent child, s.kindOf? l.1 = some parent ∧ s.kindOf? l.2 = some child ∧
      parent.accepts child = true := by
  have hlinks : s.links.Nodup := hs.sound.linkedOnce
  refine ⟨?_, ?_, hs.sound.linked⟩
  · intro resource hresource
    exact ⟨_, Site.send_describe hresource recipient, Store.showsResource hlinks resource⟩
  · exact ⟨_, site.send_describe_self s recipient,
      Store.showsCatalogs hs.sound.ascending hlinks site.baseUrl⟩

/-- A contract with two rules, the later of which was linked first and the earlier of which has no
text. -/
theorem descriptions_exact_two_rules :
    let site := Site.counting "https://c"
    let resource := "https://c/api/resources/00000000-0000-0000-0000-000000000000"
    let contract := "https://c/api/contracts/00000000-0000-0000-0000-000000000001"
    let first := "https://c/api/rules/00000000-0000-0000-0000-000000000002"
    let second := "https://c/api/rules/00000000-0000-0000-0000-000000000003"
    let s := site.performAll .empty
      [.request (.post "https://c/api/resources" (some (.obj []))),
       .request (.post "https://c/api/contracts" (some (.obj []))),
       .request (.post "https://c/api/rules" (some (.obj []))),
       .request (.post "https://c/api/rules" (some (.obj [("value", .str "[]")]))),
       .request (.post (resource ++ "/contracts") (some (.texts [contract]))),
       .request (.post (contract ++ "/rules") (some (.texts [second, first])))]
    site.Reachable s ∧ s.kindOf? resource = some .resource ∧
      s.children resource .contract = [contract] ∧ s.children contract .rule = [second, first] ∧
      ∃ doc, site.transport.send (Client.describeRequest site.baseUrl none (some resource)) s
          = (.ok (.ofJson 200 doc), s) ∧
        s.ShowsResource resource doc := by
  intro site resource contract first second s
  have hreach : site.Reachable s := ⟨_, rfl⟩
  have hthere : s.kindOf? resource = some .resource ∧ s.children resource .contract = [contract] ∧
      s.children contract .rule = [second, first] := by decide +kernel
  exact ⟨hreach, hthere.1, hthere.2.1, hthere.2.2,
    (descriptions_exact hreach none).1 resource hthere.1⟩

end Dataspace
