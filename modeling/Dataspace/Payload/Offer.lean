/-
Offer templates: one payload for each entity of a complete app offer.

An app may have any number of endpoints, kept in the order in which they are
created.  The contract may be left out; its window then starts at the time of
provisioning.  Three offers are built in: the standard one, which also gives the
defaults, one for a connector on the local host, and one for negotiations.
-/
import Dataspace.Json.Outline
import Dataspace.Payload.Codec
import Dataspace.Payload.Window

namespace Dataspace

/-- The payloads of an app offer. -/
structure OfferTemplate where
  catalog : CatalogPayload
  resource : ResourcePayload
  representation : RepresentationPayload
  app : AppPayload
  endpoints : List EndpointPayload
  artifact : ArtifactPayload
  contract : Option ContractPayload
  rule : RulePayload
deriving DecidableEq

namespace OfferTemplate

/-! ## Built-in offers -/

/-- The offer for a remote connector. -/
def standard : OfferTemplate where
  catalog := .sample
  resource := .sample
  representation := .sample
  app := .sample
  endpoints := [.sample]
  artifact := .sample
  contract := none
  rule := .sample

/-- The offer for a connector on the local host. -/
def onLocalHost : OfferTemplate :=
  { standard with
    resource := { ResourcePayload.sample with title := some "DataProcessingApp" }
    representation :=
      { RepresentationPayload.sample with
        distributionService := some "https://localhost:8080" }
    app :=
      { AppPayload.sample with
        environmentVariables := some "dbUser=sa;dbPasswd=passwd"
        storageConfig := some "-v /data" }
    endpoints :=
      [{ EndpointPayload.sample with
         location := some "/input"
         path := some "/input"
         port := some 5000
         role := some "Input" }]
    artifact :=
      { title := "DataApp Template"
        description := "This is the template for the DataProcessingApp"
        value := "" } }

/-- The offer that is negotiated: two endpoints and an artifact with content. -/
def negotiation : OfferTemplate :=
  { standard with
    resource :=
      { ResourcePayload.sample with
        title := some "DataProcessingApp"
        publisher := none
        sovereign := none
        language := none
        license := none
        paymentMethod := none }
    representation :=
      { RepresentationPayload.sample with
        title := none
        description := none
        language := none }
    app :=
      { AppPayload.sample with
        title := some "Smart Data App for Example Usage"
        description := some "data app for processing data." }
    endpoints := [.atPath "/input" 5000 "Status", .atPath "/output" 5000 "Input"]
    artifact := { ArtifactPayload.sample with value := "SOME APP TEMPLATE" } }

/-! ## JSON form -/

def memberNames : List String :=
  ["catalog", "resource", "representation", "app", "endpoints", "artifact", "contract", "rule"]

/-- All members are written; a contract that is left out is `null`. -/
def toJson (t : OfferTemplate) : Json :=
  .object
    [("catalog", t.catalog.toJson), ("resource", t.resource.toJson),
     ("representation", t.representation.toJson), ("app", t.app.toJson),
     ("endpoints", .arr (t.endpoints.map EndpointPayload.toJson)),
     ("artifact", t.artifact.toJson), ("contract", .option ContractPayload.toJson t.contract),
     ("rule", t.rule.toJson)]

open Json in
/-- Members that are missing are those of the standard offer. -/
def ofJson? (v : Json) : Option OfferTemplate := do
  match ← v.fields? memberNames with
  | [catalog, resource, representation, app, endpoints, artifact, contract, rule] =>
    return { catalog := ← withDefault CatalogPayload.ofJson? standard.catalog catalog
             resource := ← withDefault ResourcePayload.ofJson? standard.resource resource
             representation :=
               ← withDefault RepresentationPayload.ofJson? standard.representation representation
             app := ← withDefault AppPayload.ofJson? standard.app app
             endpoints :=
               ← withDefault (listOf EndpointPayload.ofJson?) standard.endpoints endpoints
             artifact := ← withDefault ArtifactPayload.ofJson? standard.artifact artifact
             contract :=
               ← withDefault (optional ContractPayload.ofJson?) standard.contract contract
             rule := ← withDefault RulePayload.ofJson? standard.rule rule }
  | _ => none

/-- The records in an offer. -/
def outline : Json.Outline :=
  .record
    [("catalog", .flat CatalogPayload.memberNames),
     ("resource", .flat ResourcePayload.memberNames),
     ("representation", .flat RepresentationPayload.memberNames),
     ("app", .flat AppPayload.memberNames),
     ("endpoints", .list (.flat EndpointPayload.memberNames)),
     ("artifact", .flat ArtifactPayload.memberNames),
     ("contract", .flat ContractPayload.memberNames),
     ("rule", .flat RulePayload.memberNames)]

/-! ## The contract to create -/

/-- The configured window, or one that starts now. -/
def contractOrNow? (t : OfferTemplate) (now : Time.Instant) : Option ContractPayload :=
  match t.contract with
  | some contract => some contract
  | none => ContractPayload.fromNow? now

end OfferTemplate

end Dataspace
