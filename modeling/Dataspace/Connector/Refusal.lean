/-
Refusals of the in-memory connector: the causes, their statuses and messages.

A refusal is answered with a status that is no success and a JSON object with
the member `message`.
-/
import Dataspace.Entity.Kind
import Dataspace.Exchange.Request

namespace Dataspace

/-- The first thing a registry event lacks that the webhook needs. -/
inductive EventFault where
  | type
  | occurAt
  | eventData
  | resources
  | repositoryName
  /-- The repository name is not the id of a resource. -/
  | nameNotUuid
deriving DecidableEq

/-- Why the connector refuses a request. -/
inductive Refusal where
  | unknownHost
  | noRoute
  | unknownCollection
  | notFound (uri : String)
  | invalidInput
  /-- Entities of the kind cannot be created. -/
  | cannotPersist (kind : EntityKind)
  /-- Entities of the parent's kind hold none of the child's. -/
  | noRelation (parent child : EntityKind)
  | wrongKind (uri : String) (expected : EntityKind)
  | missingIds
  | noPolicy
  | otherTarget
  | missingEvent
  | invalidEvent (fault : EventFault)
deriving DecidableEq

namespace EventFault

def message : EventFault → String
  | type => "type"
  | occurAt => "occur_at"
  | eventData => "event_data"
  | resources => "event_data.resources"
  | repositoryName => "event_data.repository.name"
  | nameNotUuid => "event_data.repository.name (not a UUID)"

end EventFault

namespace Refusal

def status : Refusal → Nat
  | unknownHost | noRoute | unknownCollection | notFound _ => 404
  | cannotPersist _ => 500
  | _ => 400

def message : Refusal → String
  | unknownHost => "unknown host"
  | noRoute => "no such route"
  | unknownCollection => "unknown collection"
  | notFound uri => s!"{uri} not found"
  | invalidInput => "Invalid input."
  | cannotPersist kind => s!"cannot persist {kind.name}"
  | noRelation parent child => s!"{parent.name} has no {child.collection} collection"
  | wrongKind uri expected => s!"{uri} is not a {expected.name}"
  | missingIds => "resourceIds and artifactIds are required"
  | noPolicy => "no usage policy supplied"
  | otherTarget => "policy target does not match the requested artifact"
  | missingEvent => "missing event"
  | invalidEvent fault => s!"invalid registry event: {fault.message}"

def response (r : Refusal) : Response :=
  .ofJson r.status (.object [("message", .str r.message)])

/-- No refusal is a success. -/
theorem isSuccess_response (r : Refusal) : r.response.isSuccess = false := by
  cases r <;> rfl

end Refusal

end Dataspace
