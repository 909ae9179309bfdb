/-
Registry events: the notifications that a registry posts to a connector when an
image was pushed.

An event is checked before it is sent.  The connector reads the repository name
as the id of a resource, so it has to be a UUID.
-/
import Dataspace.Exchange.Client
import Dataspace.Json.Record
import Dataspace.Registry.Reference
import Dataspace.Text.Uuid
import Dataspace.Time.Instant

namespace Dataspace

open Text

/-- The path to which events are posted. -/
def webhookPath : String := "/api/webhook/registry"

/-- The digest of an event when no push reported one. -/
def sampleDigest : String :=
  "sha256:84075fa0ee8106f8e2975dca79d3c6f9587b41afefa7aec57e76a2fc9506df6c"

/-- The kinds of notification. -/
inductive EventType where
  | pushArtifact
  | pullArtifact
  | deleteArtifact
  | uploadChart
  | downloadChart
  | deleteChart
  | scanningCompleted
  | scanningFailed
  | quotaExceed
  | quotaWarning
  | replication
deriving DecidableEq

/-- An image that an event is about. -/
structure EventResource where
  digest : String
  tag : String
  resourceUrl : String
deriving DecidableEq

/-- The repository that an event is about; its name is the id of a resource. -/
structure EventRepository where
  /-- UNIX seconds. -/
  dateCreated : Int
  name : String
  nameSpace : String
  fullName : String
  visibility : String
deriving DecidableEq

/-- A notification. -/
structure RegistryEvent where
  eventType : EventType
  /-- UNIX seconds. -/
  occurAt : Int
  operator : String
  resources : List EventResource
  repository : EventRepository
deriving DecidableEq

/-! ## JSON form -/

namespace EventType

def all : List EventType :=
  [pushArtifact, pullArtifact, deleteArtifact, uploadChart, downloadChart, deleteChart,
   scanningCompleted, scanningFailed, quotaExceed, quotaWarning, replication]

def name : EventType → String
  | pushArtifact => "PUSH_ARTIFACT"
  | pullArtifact => "PULL_ARTIFACT"
  | deleteArtifact => "DELETE_ARTIFACT"
  | uploadChart => "UPLOAD_CHART"
  | downloadChart => "DOWNLOAD_CHART"
  | deleteChart => "DELETE_CHART"
  | scanningCompleted => "SCANNING_COMPLETED"
  | scanningFailed => "SCANNING_FAILED"
  | quotaExceed => "QUOTA_EXCEED"
  | quotaWarning => "QUOTA_WARNING"
  | replication => "REPLICATION"

def ofName? (s : String) : Option EventType :=
  all.find? fun t => t.name == s

def ofJson? (v : Json) : Option EventType :=
  (v.name? Json.isNull).bind ofName?

end EventType

open Json

namespace EventResource

def memberNames : List String :=
  ["digest", "tag", "resource_url"]

def toJson (r : EventResource) : Json :=
  .object [("digest", .str r.digest), ("tag", .str r.tag), ("resource_url", .str r.resourceUrl)]

def ofJson? (v : Json) : Option EventResource := do
  match ← v.fields? memberNames with
  | [digest, tag, resourceUrl] =>
    return ⟨← required asString? digest, ← required asString? tag,
      ← required asString? resourceUrl⟩
  | _ => none

end EventResource

namespace EventRepository

def memberNames : List String :=
  ["date_created", "name", "namespace", "repo_full_name", "repo_type"]

def toJson (r : EventRepository) : Json :=
  .object
    [("date_created", .int r.dateCreated), ("name", .str r.name),
     ("namespace", .str r.nameSpace), ("repo_full_name", .str r.fullName),
     ("repo_type", .str r.visibility)]

def ofJson? (v : Json) : Option EventRepository := do
  match ← v.fields? memberNames with
  | [dateCreated, name, nameSpace, fullName, visibility] =>
    return ⟨← required asInt64? dateCreated, ← required asString? name,
      ← required asString? nameSpace, ← required asString? fullName,
      ← required asString? visibility⟩
  | _ => none

end EventRepository

namespace RegistryEvent

def memberNames : List String :=
  ["type", "occur_at", "operator", "event_data"]

def dataNames : List String :=
  ["resources", "repository"]

/-- The resources and the repository of an event. -/
def dataJson (e : RegistryEvent) : Json :=
  .object
    [("resources", .arr (e.resources.map EventResource.toJson)),
     ("repository", e.repository.toJson)]

def toJson (e : RegistryEvent) : Json :=
  .object
    [("type", .str e.eventType.name), ("occur_at", .int e.occurAt),
     ("operator", .str e.operator), ("event_data", e.dataJson)]

def dataOfJson? (v : Json) : Option (List EventResource × EventRepository) := do
  match ← v.fields? dataNames with
  | [resources, repository] =>
    return (← required (listOf EventResource.ofJson?) resources,
      ← required EventRepository.ofJson? repository)
  | _ => none

def ofJson? (v : Json) : Option RegistryEvent := do
  match ← v.fields? memberNames with
  | [eventType, occurAt, operator, eventData] =>
    let eventType ← required EventType.ofJson? eventType
    let occurAt ← required asInt64? occurAt
    let operator ← required asString? operator
    let (resources, repository) ← required dataOfJson? eventData
    return ⟨eventType, occurAt, operator, resources, repository⟩
  | _ => none

/-! ## Making, checking and sending events -/

/-- The event that the image of a reference was pushed at an instant. -/
def pushed (reference : ImageReference) (tag : String) (digest : Option String)
    (occurred : Time.Instant) : RegistryEvent where
  eventType := .pushArtifact
  occurAt := occurred.seconds
  operator := "admin"
  resources := [⟨digest.getD sampleDigest, tag, reference.path⟩]
  repository :=
    { dateCreated := occurred.seconds
      name := reference.resourceId
      nameSpace := reference.repository
      fullName := s!"{reference.repository}/{reference.resourceId}"
      visibility := "private" }

/-- What keeps an event from being sent, if anything does. -/
def defect? (e : RegistryEvent) : Option EventDefect :=
  let name := trim e.repository.name
  if e.resources.isEmpty then some .noResources
  else if name.isEmpty then some .emptyName
  else if Uuid.isText name then none
  else some (.notResourceId name)

/-- The event is fit to be sent. -/
def validate (e : RegistryEvent) : Except RegistryError Unit :=
  match e.defect? with
  | some defect => .error (.invalidEvent defect)
  | none => .ok ()

/-- Posts an event that is fit to be sent, and gives the text of the response. -/
def send {σ : Type} (c : Client σ) (e : RegistryEvent) :
    ExceptT RegistryError (StateM σ) String := fun s =>
  match e.validate with
  | .error x => (.error x, s)
  | .ok () =>
    match c.execute (.post (c.url webhookPath) (some e.toJson)) s with
    | (.ok response, s) => (.ok response.text, s)
    | (.error x, s) => (.error (.connector x), s)

end RegistryEvent

end Dataspace
