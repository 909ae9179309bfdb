/-
The kinds of entity a connector keeps, and which of them may hold which.

Each kind has a name, a collection under which its entities are addressed, and
a type name in descriptions.  `accepts` is the whole association model: a
catalog holds resources, a resource catalogs, representations and contracts, a
representation apps and artifacts, an app endpoints, and a contract rules.
-/
import Dataspace.Json.Record

namespace Dataspace

/-- The kinds of entity, in the order in which an offer creates them. -/
inductive EntityKind where
  | catalog
  | resource
  | representation
  | app
  | endpoint
  | artifact
  | contract
  | rule
deriving DecidableEq, Inhabited

namespace EntityKind

/-- Every kind, once. -/
def all : List EntityKind :=
  [catalog, resource, representation, app, endpoint, artifact, contract, rule]

/-! ## Names -/

def name : EntityKind → String
  | catalog => "catalog"
  | resource => "resource"
  | representation => "representation"
  | app => "app"
  | endpoint => "endpoint"
  | artifact => "artifact"
  | contract => "contract"
  | rule => "rule"

/-- The collection under which entities of the kind are addressed. -/
def collection : EntityKind → String
  | catalog => "catalogs"
  | resource => "resources"
  | representation => "representations"
  | app => "apps"
  | endpoint => "endpoints"
  | artifact => "artifacts"
  | contract => "contracts"
  | rule => "rules"

/-- The type name of the kind in descriptions. -/
def typeName : EntityKind → String
  | catalog => "ResourceCatalog"
  | resource => "Resource"
  | representation => "Representation"
  | app => "App"
  | endpoint => "Endpoint"
  | artifact => "Artifact"
  | contract => "ContractOffer"
  | rule => "Rule"

def ofName? (s : String) : Option EntityKind :=
  all.find? fun k => k.name == s

def ofCollection? (s : String) : Option EntityKind :=
  all.find? fun k => k.collection == s

/-- The path to which entities of the kind are posted. -/
def createPath (k : EntityKind) : String :=
  "/api/" ++ k.collection

/-- A kind is written as its name. -/
def ofJson? (v : Json) : Option EntityKind :=
  (v.name? Json.isNull).bind ofName?

/-! ## Associations -/

/-- Whether entities of kind `child` may be added to one of kind `parent`. -/
def accepts : (parent child : EntityKind) → Bool
  | catalog, resource => true
  | resource, catalog => true
  | resource, representation => true
  | resource, contract => true
  | representation, app => true
  | representation, artifact => true
  | app, endpoint => true
  | contract, rule => true
  | _, _ => false

/-! ## Names and collections determine the kind -/

theorem mem_all (k : EntityKind) : k ∈ all := by
  cases k <;> decide

theorem ofName?_name (k : EntityKind) : ofName? k.name = some k := by
  cases k <;> decide

theorem ofCollection?_collection (k : EntityKind) : ofCollection? k.collection = some k := by
  cases k <;> decide

theorem collection_of_ofCollection? {s : String} {k : EntityKind}
    (h : ofCollection? s = some k) : k.collection = s := by
  have := List.find?_some h
  simpa using this

end EntityKind

end Dataspace
