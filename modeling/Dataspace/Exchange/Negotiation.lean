/-
Descriptions and contracts.

A description of an element is requested, the usage policy is taken from its
first contract offer and bound to an artifact, and the policy is submitted.  The
calls are independent of each other; no policy is examined here.
-/
import Dataspace.Exchange.Client

namespace Dataspace

open Text

def descriptionPath : String := "/api/ids/description"

def contractPath : String := "/api/ids/contract"

/-- The answer to a contract request. -/
structure ContractAnswer where
  status : Nat
  body : String

namespace ContractAnswer

/-- The body as JSON, if it is JSON text. -/
def json? (a : ContractAnswer) : Option Json :=
  Json.parse? a.body

end ContractAnswer

/-! ## Policies in descriptions -/

/-- The first permission of the first contract offer of a description, with
`ids:target` bound to the artifact. -/
def extractPolicy (description : Json) (artifact : Handle) : Except ConnectorError Json :=
  let missing (fault : FormatFault) : ConnectorError := .responseFormat artifact.uri fault
  match (description.get? "ids:contractOffer").bind Json.first? with
  | none => .error (missing .missingOffer)
  | some offer =>
    match (offer.get? "ids:permission").bind Json.first? with
    | none => .error (missing .missingPermission)
    | some permission =>
      match permission.set? "ids:target" (.str artifact.uri) with
      | none => .error (missing .permissionNotObject)
      | some policy => .ok policy

namespace Client

variable {σ : Type}

/-! ## Requests -/

/-- The description of an element, or of the connector itself. -/
def describe (c : Client σ) (recipient element : Option String) : Exchange σ Json := do
  let url := c.url descriptionPath
  let request := ((Request.post url none).withQueryIf "recipient" recipient).withQueryIf
    "elementId" element
  let response ← c.execute request
  match Json.parseBytes? response.body with
  | some v => return v
  | none => throw (.responseFormat url .descriptionNotJson)

/-- The request that submits a policy for an artifact of a resource. -/
def contractRequest (c : Client σ) (recipient : Option String) (resource artifact : Handle)
    (download : Bool) (policy : Json) : Request :=
  ((((Request.post (c.url contractPath) (some (.arr [policy]))).withQueryIf
    "recipient" recipient).withQuery
    "resourceIds" resource.uri).withQuery
    "artifactIds" artifact.uri).withQuery
    "download" (if download then "true" else "false")

/-- Submits a policy to obtain access to an artifact. -/
def negotiate (c : Client σ) (recipient : Option String) (resource artifact : Handle)
    (download : Bool) (policy : Json) : Exchange σ ContractAnswer := do
  let response ← c.execute (c.contractRequest recipient resource artifact download policy)
  return ⟨response.status, response.text⟩

end Client

end Dataspace
