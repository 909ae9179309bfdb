/-
What the description of an offered resource tells.

When a whole offer is stored and linked, the description of its resource shows the
one contract with the one rule's policy, and the one artifact of the one
representation.  The policy stands four levels deep in it, so the description can
be read when the policy is nested four levels less than is read.  What is then taken
from it is that policy, bound to the artifact.
-/
import Dataspace.Connector.Site
import Dataspace.Exchange.Negotiation
import Dataspace.Proofs.JsonText
import Dataspace.Proofs.OfferShape

namespace Dataspace

/-! ## The offer in the store -/

/-- The store holds the entities of the offer, each under a URI of its own, with the offer's links,
and nothing else. -/
structure OfferGraph.Stored (g : OfferGraph) (t : OfferTemplate) (contract : ContractPayload)
    (s : Store) : Prop where
  endpoints : g.endpoints.length = t.endpoints.length
  distinct : (g.handles.map Handle.uri).all.Nodup
  entities : s.entities.Perm ((g.handles.map Handle.uri).all.zip (t.entities contract).all)
  links : s.links = (g.handles.map Handle.uri).links

namespace Offered

variable {α β : Type}

/-- The things of two offers in pairs. -/
def zip (o : Offered α) (w : Offered β) : Offered (α × β) :=
  ⟨(o.catalog, w.catalog), (o.resource, w.resource), (o.representation, w.representation),
    (o.app, w.app), o.endpoints.zip w.endpoints, (o.artifact, w.artifact),
    (o.contract, w.contract), (o.rule, w.rule)⟩

theorem all_zip {o : Offered α} {w : Offered β} (h : o.endpoints.length = w.endpoints.length) :
    (o.zip w).all = o.all.zip w.all := by
  simp only [all, zip, List.cons_append, List.nil_append, List.zip_cons_cons]
  rw [List.zip_append h]
  rfl

/-! ### Children -/

section Children

variable {o : Offered String}

/-- The children in the links of an offer. -/
def childrenOf (o : Offered String) (parent : String) : List String :=
  (o.links.filter fun l => l.1 == parent).map Prod.snd

/-- The things that have children are different. -/
theorem parents_distinct (h : o.all.Nodup) :
    [o.catalog, o.resource, o.representation, o.app, o.contract].Nodup := by
  refine h.sublist ?_
  have hback : [o.contract].Sublist (o.endpoints ++ [o.artifact, o.contract, o.rule]) :=
    (List.Sublist.cons _ (List.Sublist.cons_cons _ (List.nil_sublist _))).trans
      (List.sublist_append_right _ _)
  have hfront := hback.append_left [o.catalog, o.resource, o.representation, o.app]
  rw [← List.append_assoc] at hfront
  exact hfront

theorem childrenOf_resource (h : o.all.Nodup) :
    o.childrenOf o.resource = [o.representation, o.contract] := by
  have hparents := parents_distinct h
  simp only [List.nodup_cons, List.mem_cons, List.not_mem_nil, not_or] at hparents
  obtain ⟨⟨hc, -⟩, ⟨hp, ha, hk, -⟩, -⟩ := hparents
  simp [childrenOf, links, List.filter_append, List.filter_map, Function.comp_def, hc, Ne.symm hp,
    Ne.symm ha, Ne.symm hk]

theorem childrenOf_representation (h : o.all.Nodup) :
    o.childrenOf o.representation = [o.app, o.artifact] := by
  have hparents := parents_distinct h
  simp only [List.nodup_cons, List.mem_cons, List.not_mem_nil, not_or] at hparents
  obtain ⟨⟨-, hc, -⟩, ⟨hr, -⟩, ⟨ha, hk, -⟩, -⟩ := hparents
  simp [childrenOf, links, List.filter_append, List.filter_map, Function.comp_def, hc, hr,
    Ne.symm ha, Ne.symm hk]

theorem childrenOf_contract (h : o.all.Nodup) : o.childrenOf o.contract = [o.rule] := by
  have hparents := parents_distinct h
  simp only [List.nodup_cons, List.mem_cons, List.not_mem_nil, not_or] at hparents
  obtain ⟨⟨-, -, -, hc, -⟩, ⟨-, -, hr, -⟩, ⟨-, hp, -⟩, ⟨ha, -⟩, -⟩ := hparents
  simp [childrenOf, links, List.filter_append, List.filter_map, Function.comp_def, hc, hr, hp, ha]

end Children

end Offered

namespace Store

theorem children_eq_filter (s : Store) (parent : String) (kind : EntityKind) :
    s.children parent kind = ((s.links.filter fun l => l.1 == parent).map Prod.snd).filter
      fun child => s.kindOf? child == some kind := by
  rw [children, List.filter_map, List.filter_filter]
  congr 1
  refine List.filter_congr ?_
  intro l _
  exact Bool.and_comm _ _

end Store

namespace OfferGraph.Stored

variable {g : OfferGraph} {t : OfferTemplate} {contract : ContractPayload} {s : Store}

/-- Every entity of the offer is found under its URI. -/
theorem entity? (h : g.Stored t contract s) :
    ∀ p ∈ ((g.handles.map Handle.uri).zip (t.entities contract)).all, s.entity? p.1 = some p.2 := by
  have hlength : (g.handles.map Handle.uri).endpoints.length
      = (t.entities contract).endpoints.length := by
    rw [t.length_entities contract, ← h.endpoints]
    exact List.length_map _
  have hall : (g.handles.map Handle.uri).all.length ≤ (t.entities contract).all.length := by
    exact Nat.le_of_eq (by rw [Offered.length_all, Offered.length_all, hlength])
  have hkeys : (s.entities.map Prod.fst).Nodup := by
    rw [(h.entities.map Prod.fst).nodup_iff, List.map_fst_zip hall]
    exact h.distinct
  intro p hp
  rw [Offered.all_zip hlength] at hp
  exact Keyed.lookup_of_nodup hkeys (h.entities.mem_iff.mpr hp)

theorem children (h : g.Stored t contract s) (parent : String) (kind : EntityKind) :
    s.children parent kind = ((g.handles.map Handle.uri).childrenOf parent).filter
      fun child => s.kindOf? child == some kind := by
  rw [Store.children_eq_filter, h.links]
  rfl

end OfferGraph.Stored

/-! ## The description -/

/-- The policy of a rule, as a description shows it: a JSON value if its text is one. -/
def RulePayload.policy (p : RulePayload) : Json :=
  (Json.parse? p.value).getD (.str p.value)

theorem RulePayload.rulePolicy_toJson (p : RulePayload) : Store.rulePolicy p.toJson = p.policy := by
  have hvalue : p.toJson.get? "value" = some (.str p.value) := by
    show Keyed.lookup "value" (Keyed.ofList _) = _
    rw [Keyed.ofList_concat]
    exact Keyed.lookup_insert_self ..
  have htext : Store.valueText p.toJson = p.value := by
    rw [Store.valueText, hvalue]
    rfl
  rw [Store.rulePolicy, htext]
  rfl

theorem RulePayload.policy_of_parse? {p : RulePayload} {v : Json}
    (h : Json.parse? p.value = some v) : p.policy = v := by
  rw [policy, h]
  rfl

/-- A policy is a text, or fits into what is read. -/
theorem RulePayload.fits_policy (p : RulePayload) : p.policy.Fits Json.maxDepth := by
  cases hparse : Json.parse? p.value with
  | none =>
      have hpolicy : p.policy = .str p.value := by
        rw [policy, hparse]
        rfl
      rw [hpolicy]
      exact .plain rfl rfl trivial
  | some v =>
      rw [policy_of_parse? hparse]
      exact Json.fits_of_parse? hparse

/-- The floats in the policy, should it have any, read back from their texts. -/
def RulePayload.FloatsReadBack (p : RulePayload) : Prop :=
  ∀ v, Json.parse? p.value = some v → ∀ x, .float x ∈ v.numbers → Json.ReadsBack (.float x)

/-- The numbers of a policy read back if its floats do. -/
theorem RulePayload.FloatsReadBack.numbers {p : RulePayload} (h : p.FloatsReadBack) :
    ∀ n ∈ p.policy.numbers, Json.ReadsBack n := by
  refine Json.readsBack_of_fits p.fits_policy ?_
  cases hparse : Json.parse? p.value with
  | none =>
      intro x hx
      rw [policy, hparse] at hx
      cases hx
  | some v =>
      rw [policy_of_parse? hparse]
      exact h v hparse

/-- A policy is an object nested so deep if and only if its text is that of one. -/
theorem RulePayload.isObject_policy_iff (p : RulePayload) (depth : Nat) :
    (p.policy.isObject = true ∧ p.policy.depth ≤ depth) ↔
      ∃ v, Json.parse? p.value = some v ∧ v.isObject = true ∧ v.depth ≤ depth := by
  cases hparse : Json.parse? p.value with
  | none =>
      have hpolicy : p.policy = .str p.value := by
        rw [policy, hparse]
        rfl
      simp [hpolicy, Json.isObject]
  | some v => simp [policy_of_parse? hparse]

namespace OfferGraph

/-- The description of an offered resource with a policy. -/
def description (g : OfferGraph) (policy : Json) : Json :=
  .object
    [("@type", Store.typeOf .resource), ("@id", .str g.resource.uri),
     ("ids:contractOffer", .arr [.object
       [("@type", .str "ids:ContractOffer"), ("@id", .str g.contract.uri),
        ("ids:permission", .arr [policy])]]),
     ("ids:representation", .arr [.object
       [("@type", .str "ids:Representation"), ("@id", .str g.representation.uri),
        ("ids:instance", .arr [Store.describeArtifact g.artifact.uri])]])]

variable {g : OfferGraph} {t : OfferTemplate} {contract : ContractPayload} {s : Store}

theorem Stored.describeContract (h : g.Stored t contract s) :
    s.describeContract g.contract.uri = .object
      [("@type", .str "ids:ContractOffer"), ("@id", .str g.contract.uri),
       ("ids:permission", .arr [t.rule.policy])] := by
  obtain ⟨-, -, -, -, -, -, -, hrule⟩ := Offered.forall_all.mp h.entity?
  have hstored : s.entity? g.rule.uri = some ⟨.rule, t.rule.toJson⟩ := hrule
  have hkind : s.kindOf? g.rule.uri = some .rule := congrArg (Option.map Entity.kind) hstored
  have hlinked : (g.handles.map Handle.uri).childrenOf g.contract.uri = [g.rule.uri] :=
    Offered.childrenOf_contract h.distinct
  have hrules : s.children g.contract.uri .rule = [g.rule.uri] := by
    rw [h.children, hlinked]
    simp [hkind]
  simp [Store.describeContract, hrules, hstored, RulePayload.rulePolicy_toJson]

theorem Stored.describeRepresentation (h : g.Stored t contract s) :
    s.describeRepresentation g.representation.uri = .object
      [("@type", .str "ids:Representation"), ("@id", .str g.representation.uri),
       ("ids:instance", .arr [Store.describeArtifact g.artifact.uri])] := by
  obtain ⟨-, -, -, happ, -, hartifact, -⟩ := Offered.forall_all.mp h.entity?
  have hkind : s.kindOf? g.artifact.uri = some .artifact :=
    congrArg (Option.map Entity.kind) hartifact
  have hother : s.kindOf? g.app.uri = some .app := congrArg (Option.map Entity.kind) happ
  have hlinked : (g.handles.map Handle.uri).childrenOf g.representation.uri
      = [g.app.uri, g.artifact.uri] := Offered.childrenOf_representation h.distinct
  have hartifacts : s.children g.representation.uri .artifact = [g.artifact.uri] := by
    rw [h.children, hlinked]
    simp [hkind, hother]
  simp [Store.describeRepresentation, hartifacts]

theorem Stored.describeResource (h : g.Stored t contract s) :
    s.describeResource g.resource.uri = g.description t.rule.policy := by
  obtain ⟨-, -, hrepresentation, -, -, -, hcontract, -⟩ := Offered.forall_all.mp h.entity?
  have hfirst : s.kindOf? g.representation.uri = some .representation :=
    congrArg (Option.map Entity.kind) hrepresentation
  have hsecond : s.kindOf? g.contract.uri = some .contract :=
    congrArg (Option.map Entity.kind) hcontract
  have hlinked : (g.handles.map Handle.uri).childrenOf g.resource.uri
      = [g.representation.uri, g.contract.uri] := Offered.childrenOf_resource h.distinct
  have hcontracts : s.children g.resource.uri .contract = [g.contract.uri] := by
    rw [h.children, hlinked]
    simp [hfirst, hsecond]
  have hrepresentations : s.children g.resource.uri .representation = [g.representation.uri] := by
    rw [h.children, hlinked]
    simp [hfirst, hsecond]
  simp [Store.describeResource, hcontracts, hrepresentations, h.describeContract,
    h.describeRepresentation, description]

theorem description_eq (g : OfferGraph) (policy : Json) : g.description policy = .obj
    [("@id", .str g.resource.uri), ("@type", Store.typeOf .resource),
     ("ids:contractOffer", .arr [.obj
       [("@id", .str g.contract.uri), ("@type", .str "ids:ContractOffer"),
        ("ids:permission", .arr [policy])]]),
     ("ids:representation", .arr [.obj
       [("@id", .str g.representation.uri), ("@type", .str "ids:Representation"),
        ("ids:instance", .arr [.obj
          [("@id", .str g.artifact.uri), ("@type", .str "ids:Artifact")]])]])] := by
  simp only [description, Store.describeArtifact, Json.object, Keyed.ofList, List.foldl_cons,
    List.foldl_nil, Keyed.insert, String.reduceEq, String.reduceLT, if_true, if_false]

section Shape

variable {policy : Json}

/-- The policy stands four levels deep in the description, and the artifact five. -/
theorem depth_description (g : OfferGraph) (policy : Json) :
    (g.description policy).depth = max (policy.depth + 4) 5 := by
  rw [description_eq]
  simp only [Json.depth, Json.depthItems, Json.depthMembers, Store.typeOf]
  omega

theorem ordered_description (g : OfferGraph) (h : policy.Ordered) :
    (g.description policy).Ordered := by
  have hcontract : (Json.object [("@type", .str "ids:ContractOffer"), ("@id", .str g.contract.uri),
      ("ids:permission", .arr [policy])]).Ordered :=
    Json.ordered_object (by simp [Json.Ordered, Json.OrderedItems, h])
  have hartifact : (Store.describeArtifact g.artifact.uri).Ordered :=
    Json.ordered_object (by simp [Json.Ordered])
  have hrepresentation : (Json.object [("@type", .str "ids:Representation"),
      ("@id", .str g.representation.uri),
      ("ids:instance", .arr [Store.describeArtifact g.artifact.uri])]).Ordered :=
    Json.ordered_object (by simp [Json.Ordered, Json.OrderedItems, hartifact])
  exact Json.ordered_object (by
    simp [Json.Ordered, Json.OrderedItems, Store.typeOf, hcontract, hrepresentation])

theorem numbers_description (g : OfferGraph) (policy : Json) :
    (g.description policy).numbers = policy.numbers := by
  rw [description_eq]
  simp [Json.numbers, Json.numbersItems, Json.numbersMembers, Store.typeOf]

/-- The description is read as it was written, unless the policy is nested too deep. -/
theorem parseBytes?_description (g : OfferGraph) (ho : policy.Ordered)
    (hn : ∀ n ∈ policy.numbers, Json.ReadsBack n) :
    Json.parseBytes? (Text.Utf8.encode (g.description policy).compact)
      = if policy.depth + 4 ≤ Json.maxDepth then some (g.description policy) else none := by
  have hdepth : max (policy.depth + 4) 5 ≤ Json.maxDepth ↔ policy.depth + 4 ≤ Json.maxDepth := by
    unfold Json.maxDepth
    omega
  rw [Json.parseBytes?_compact (g.ordered_description ho) (g.numbers_description policy ▸ hn),
    depth_description]
  simp only [hdepth]

/-- What is taken from the description is the policy, bound to the artifact. -/
theorem extractPolicy_description (g : OfferGraph) (policy : Json) (artifact : Handle) :
    extractPolicy (g.description policy) artifact
      = match policy.set? "ids:target" (.str artifact.uri) with
        | none => .error (.responseFormat artifact.uri .permissionNotObject)
        | some bound => .ok bound := by
  rw [description_eq]
  rfl

end Shape

end OfferGraph

end Dataspace
