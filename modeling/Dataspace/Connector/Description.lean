/-
Descriptions that the in-memory connector gives of itself and of its entities.

The connector lists its catalogs in ascending URI order, each with its offered
resources.  A resource shows a contract offer for each of its contracts, with
the policies of the contract's rules, and its representations with their
artifacts, all in the order in which they were linked.  Other entities show no
more than their type and URI.
-/
import Dataspace.Connector.Store
import Dataspace.Json.Parser

namespace Dataspace.Store

/-- The JSON-LD type of a kind. -/
def typeOf (kind : EntityKind) : Json :=
  .str ("ids:" ++ kind.typeName)

/-- A rule's policy: the JSON value of its `value` text, or else the text. -/
def rulePolicy (fields : Json) : Json :=
  let value := valueText fields
  (Json.parse? value).getD (.str value)

/-- A contract with the policies of its rules. -/
def describeContract (s : Store) (contract : String) : Json :=
  let permissions := ((s.children contract .rule).filterMap s.entity?).map fun e =>
    rulePolicy e.fields
  .object
    [("@type", .str "ids:ContractOffer"), ("@id", .str contract),
     ("ids:permission", .arr permissions)]

def describeArtifact (artifact : String) : Json :=
  .object [("@type", .str "ids:Artifact"), ("@id", .str artifact)]

/-- A representation with its artifacts. -/
def describeRepresentation (s : Store) (representation : String) : Json :=
  .object
    [("@type", .str "ids:Representation"), ("@id", .str representation),
     ("ids:instance", .arr ((s.children representation .artifact).map describeArtifact))]

/-- A resource with its contracts and representations. -/
def describeResource (s : Store) (resource : String) : Json :=
  .object
    [("@type", typeOf .resource), ("@id", .str resource),
     ("ids:contractOffer", .arr ((s.children resource .contract).map s.describeContract)),
     ("ids:representation",
       .arr ((s.children resource .representation).map s.describeRepresentation))]

/-- A catalog with its offered resources. -/
def describeCatalog (s : Store) (catalog : String) : Json :=
  .object
    [("@id", .str catalog),
     ("ids:offeredResource",
       .arr ((s.children catalog .resource).map fun r => .object [("@id", .str r)]))]

/-- The connector at a base URL, with its catalogs. -/
def describeSelf (s : Store) (baseUrl : String) : Json :=
  .object
    [("@type", .str "ids:BaseConnector"), ("@id", .str baseUrl),
     ("ids:resourceCatalog", .arr ((s.urisOf .catalog).map s.describeCatalog))]

/-- An entity of the given kind. -/
def describeEntity (s : Store) (uri : String) : EntityKind → Json
  | .resource => s.describeResource uri
  | kind => .object [("@type", typeOf kind), ("@id", .str uri)]

end Dataspace.Store
