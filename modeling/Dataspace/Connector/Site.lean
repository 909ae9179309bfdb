/-
The in-memory connector.

A site has a base URL and a supply of UUIDs.  It answers a request from its
store: either the request is refused, and then the store stays as it is, or it
is answered with a success and a next store.  Every check is made before
anything is changed.
-/
import Dataspace.Connector.Description
import Dataspace.Connector.Route
import Dataspace.Exchange.Transport
import Dataspace.Text.Uuid

namespace Dataspace

open Text

/-- The unchanging part of an in-memory connector: `uuids n` is the UUID taken
after `n` others. -/
structure Site where
  baseUrl : String
  uuids : Nat → Uuid

/-- An answer with its next store, or a refusal. -/
abbrev Reply := Except Refusal (Response × Store)

namespace Site

/-- The site at a URL, which is kept without the slashes at its end. -/
def ofUrl (url : String) (uuids : Nat → Uuid) : Site :=
  ⟨withoutSlashes url, uuids⟩

/-- The URI of the next thing to be stored under a collection. -/
def nextUri (site : Site) (collection : String) (s : Store) : String :=
  Route.entityUri site.baseUrl collection (site.uuids s.issued).text

/-- An answer that changes nothing. -/
def unchanged (s : Store) (v : Json) : Reply :=
  .ok (.ofJson 200 v, s)

/-! ## Creating and linking -/

/-- Stores an entity, unless its kind cannot be created or the body is no object. -/
def create (site : Site) (kind : EntityKind) (body : Option Json) (s : Store) : Reply :=
  if kind ∈ s.failing then .error (.cannotPersist kind)
  else match body with
    | some (.obj members) =>
      let uri := site.nextUri kind.collection s
      .ok (⟨201, some uri, Utf8.encode (Json.object []).compact⟩,
        s.takeUuid.addEntity uri ⟨kind, .obj members⟩)
    | _ => .error .invalidInput

/-- A URI in a link request: a text that names an entity of the kind. -/
def childUri (s : Store) (kind : EntityKind) (item : Json) : Except Refusal String :=
  match item with
  | .str uri =>
    match s.kindOf? uri with
    | some found => if found = kind then .ok uri else .error (.wrongKind uri kind)
    | none => .error (.notFound uri)
  | _ => .error .invalidInput

/-- Adds the listed children to a parent, if all of them are fit. -/
def link (parent : String) (child : EntityKind) (body : Option Json) (s : Store) : Reply :=
  match s.kindOf? parent with
  | none => .error (.notFound parent)
  | some kind =>
    if kind.accepts child then
      match body with
      | some (.arr items) => do
        let uris ← items.mapM (childUri s child)
        unchanged (s.addLinks parent uris) (.object [])
      | _ => .error .invalidInput
    else .error (.noRelation kind child)

/-! ## Descriptions and contracts -/

/-- The description of an element, or of the connector. -/
def describe (site : Site) (element : Option String) (s : Store) : Reply :=
  match element with
  | none => unchanged s (s.describeSelf site.baseUrl)
  | some uri =>
    match s.kindOf? uri with
    | some kind => unchanged s (s.describeEntity uri kind)
    | none => .error (.notFound uri)

/-- The policy in the body of a contract request, which is bound to the artifact. -/
def requestedPolicy (artifact : String) (body : Option Json) : Except Refusal Json :=
  match body with
  | some (.arr (policy :: _)) =>
    if (policy.get? "ids:target").bind Json.asString? = some artifact then .ok policy
    else .error .otherTarget
  | _ => .error .noPolicy

/-- Makes an agreement on the policy, for a resource and an artifact in the store. -/
def contract (site : Site) (r : Request) (s : Store) : Reply :=
  match r.parameter? "resourceIds", r.parameter? "artifactIds" with
  | some resource, some artifact =>
    if (s.entity? resource).isNone then .error (.notFound resource)
    else if (s.entity? artifact).isNone then .error (.notFound artifact)
    else do
      let policy ← requestedPolicy artifact r.body
      let agreement := Json.object
        [("@type", .str "ids:ContractAgreement"),
         ("@id", .str (site.nextUri "agreements" s)),
         ("ids:permission", .arr [policy])]
      unchanged { s.takeUuid with agreements := s.agreements ++ [agreement] } agreement
  | _, _ => .error .missingIds

/-! ## Registry events -/

/-- What a registry event lacks, if it lacks something. -/
def eventFault? (event : Json) : Option EventFault :=
  if ((event.get? "type").bind Json.asString?).isNone then some .type
  else if ((event.get? "occur_at").bind Json.asInt64?).isNone then some .occurAt
  else match (event.get? "event_data").filter Json.isObject with
    | none => some .eventData
    | some data =>
      if ((data.get? "resources").bind Json.asArray?).isNone then some .resources
      else
        match ((data.get? "repository").bind (Json.get? "name")).bind Json.asString? with
        | none => some .repositoryName
        | some name => if Uuid.isText name then none else some .nameNotUuid

/-- Records a registry event that lacks nothing. -/
def webhook (body : Option Json) (s : Store) : Reply :=
  match body with
  | none => .error .missingEvent
  | some event =>
    match eventFault? event with
    | some fault => .error (.invalidEvent fault)
    | none => unchanged { s with events := s.events ++ [event] } (.object [])

/-! ## Reading -/

def readEntity (uri : String) (s : Store) : Reply :=
  match s.entity? uri with
  | some entity => unchanged s entity.fields
  | none => .error (.notFound uri)

def readData (artifact : String) (s : Store) : Reply :=
  match s.dataOf? artifact with
  | some data => .ok (⟨200, none, data⟩, s)
  | none => .error (.notFound artifact)

def readChildren (parent : String) (kind : EntityKind) (s : Store) : Reply :=
  match s.entity? parent with
  | some _ => unchanged s (.texts (s.children parent kind))
  | none => .error (.notFound parent)

/-! ## Answering -/

/-- What becomes of a request on a route. -/
def handle (site : Site) (r : Request) (s : Store) : Route → Reply
  | .describe => site.describe (r.parameter? "elementId") s
  | .contract => site.contract r s
  | .webhook => webhook r.body s
  | .create kind => site.create kind r.body s
  | .link parent child => link parent child r.body s
  | .entity uri => readEntity uri s
  | .data artifact => readData artifact s
  | .children parent kind => readChildren parent kind s

/-- What becomes of a request. -/
def reply (site : Site) (r : Request) (s : Store) : Reply :=
  (Route.find site.baseUrl r.method r.url).bind (site.handle r s)

/-- The response to a request and the next store; a refusal leaves the store as it
is. -/
def answer (site : Site) (r : Request) (s : Store) : Response × Store :=
  match site.reply r s with
  | .ok result => result
  | .error refusal => (refusal.response, s)

/-- The connector as a transport; it always answers. -/
def transport (site : Site) : Transport Store where
  send r s :=
    let (response, next) := site.answer r s
    (.ok response, next)

end Site

end Dataspace
