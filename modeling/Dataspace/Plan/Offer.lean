/-
The plan of an app offer.

Every payload of a template is created, endpoints in the order of the template,
and then linked: the catalog to the resource, the resource to the
representation, the representation to the app, the app to its endpoints, the
representation to the artifact, the resource to the contract and the contract to
the rule.
-/
import Dataspace.Payload.Offer
import Dataspace.Plan.Run

namespace Dataspace

/-- An entity to create. -/
structure OfferPart where
  label : String
  kind : EntityKind
  fields : Json

/-- The slots of an offer plan. -/
structure OfferSlots where
  catalog : Slot
  resource : Slot
  representation : Slot
  app : Slot
  endpoints : List Slot
  artifact : Slot
  contract : Slot
  rule : Slot
deriving DecidableEq

/-- The handles of a provisioned offer. -/
structure OfferGraph where
  catalog : Handle
  resource : Handle
  representation : Handle
  app : Handle
  endpoints : List Handle
  artifact : Handle
  contract : Handle
  rule : Handle
deriving DecidableEq

namespace OfferTemplate

/-- The endpoints, numbered from one. -/
def endpointParts (t : OfferTemplate) : List OfferPart :=
  t.endpoints.zipIdx.map fun (e, i) => ⟨s!"endpoint {i + 1}", .endpoint, e.toJson⟩

/-- The entities of an offer, in the order of their creation. -/
def parts (t : OfferTemplate) (contract : ContractPayload) : List OfferPart :=
  [⟨"catalog", .catalog, t.catalog.toJson⟩,
   ⟨"resource", .resource, t.resource.toJson⟩,
   ⟨"representation", .representation, t.representation.toJson⟩,
   ⟨"app", .app, t.app.toJson⟩]
  ++ t.endpointParts ++
  [⟨"artifact", .artifact, t.artifact.toJson⟩,
   ⟨"contract", .contract, contract.toJson⟩,
   ⟨"rule", .rule, t.rule.toJson⟩]

end OfferTemplate

namespace OfferSlots

/-- The slots of an offer with so many endpoints, in the order of creation. -/
def ofPlan (plan endpoints : Nat) : OfferSlots where
  catalog := ⟨plan, 0⟩
  resource := ⟨plan, 1⟩
  representation := ⟨plan, 2⟩
  app := ⟨plan, 3⟩
  endpoints := (List.range endpoints).map fun i => ⟨plan, 4 + i⟩
  artifact := ⟨plan, 4 + endpoints⟩
  contract := ⟨plan, 5 + endpoints⟩
  rule := ⟨plan, 6 + endpoints⟩

/-- The links of an offer, each a parent and a child, in order. -/
def links (s : OfferSlots) : List (Slot × Slot) :=
  [(s.catalog, s.resource), (s.resource, s.representation), (s.representation, s.app)]
  ++ s.endpoints.map (fun e => (s.app, e)) ++
  [(s.representation, s.artifact), (s.resource, s.contract), (s.contract, s.rule)]

/-- The handles of a run, if no entity is missing. -/
def resolve (s : OfferSlots) (r : Report) : Option OfferGraph := do
  return { catalog := ← r.handleOfKind? .catalog s.catalog
           resource := ← r.handleOfKind? .resource s.resource
           representation := ← r.handleOfKind? .representation s.representation
           app := ← r.handleOfKind? .app s.app
           endpoints := ← s.endpoints.mapM (r.handleOfKind? .endpoint)
           artifact := ← r.handleOfKind? .artifact s.artifact
           contract := ← r.handleOfKind? .contract s.contract
           rule := ← r.handleOfKind? .rule s.rule }

end OfferSlots

namespace Plan

/-- The plan with a create step for each part. -/
def createParts (p : Plan) (parts : List OfferPart) : Plan :=
  parts.foldl (fun p part => p.create part.label part.kind part.fields) p

/-- The plan with a link step for each pair. -/
def linkPairs (p : Plan) (pairs : List (Slot × Slot)) : Except PlanFault Plan :=
  pairs.foldlM (fun p pair => p.link pair.1 pair.2) p

/-- The plan of an offer, with its slots.  It exists unless the template leaves out
the contract and a window from now on would leave the calendar. -/
def offer (id : Nat) (t : OfferTemplate) (now : Time.Instant) :
    Except ConnectorError (Plan × OfferSlots) :=
  match t.contractOrNow? now with
  | none => .error (.contractWindow defaultContractDays)
  | some contract =>
    let slots := OfferSlots.ofPlan id t.endpoints.length
    match ((new id).createParts (t.parts contract)).linkPairs slots.links with
    | .ok plan => .ok (plan, slots)
    | .error fault => .error (.invalidPlan fault)

end Plan

end Dataspace
