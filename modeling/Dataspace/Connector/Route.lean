/-
Routes: what a method and a URL ask of the in-memory connector.

A URL has to begin with the connector's base URL and `/api/`.  Slashes at its end
do not change how it is cut into segments.  The parent of a link request is read
as a handle from the URL without its last segment as it is written.
-/
import Dataspace.Connector.Refusal
import Dataspace.Entity.Handle

namespace Dataspace

open Text

/-- A thing that can be asked of the connector. -/
inductive Route where
  | describe
  | contract
  | webhook
  | create (kind : EntityKind)
  /-- Adding children of a kind to the entity at `parent`. -/
  | link (parent : String) (child : EntityKind)
  | entity (uri : String)
  | data (artifact : String)
  | children (parent : String) (kind : EntityKind)
deriving DecidableEq

namespace Route

/-- The URI of an entity, from the segments that address it. -/
def entityUri (baseUrl collection id : String) : String :=
  s!"{baseUrl}/api/{collection}/{id}"

/-- The segments after `/api/`. -/
def segments? (baseUrl url : String) : Option (List String) := do
  let path ← stripStart? "/api/" (← stripStart? baseUrl url)
  return split '/' (withoutSlashes path)

/-- What a posted request asks for. -/
def ofPost (url : String) : List String → Except Refusal Route
  | ["ids", "description"] => .ok .describe
  | ["ids", "contract"] => .ok .contract
  | ["webhook", "registry"] => .ok .webhook
  | [collection] =>
    match EntityKind.ofCollection? collection with
    | some kind => .ok (.create kind)
    | none => .error .noRoute
  | [_, _, kind] =>
    match Handle.parse ((beforeLast? '/' url).getD ""), EntityKind.ofCollection? kind with
    | .ok parent, some child => .ok (.link parent.uri child)
    | _, _ => .error .noRoute
  | _ => .error .noRoute

/-- What a read request asks for. -/
def ofGet (baseUrl : String) : List String → Except Refusal Route
  | [collection, id] => .ok (.entity (entityUri baseUrl collection id))
  | ["artifacts", id, "data"] => .ok (.data (entityUri baseUrl "artifacts" id))
  | [collection, id, kind] =>
    match EntityKind.ofCollection? kind with
    | some kind => .ok (.children (entityUri baseUrl collection id) kind)
    | none => .error .unknownCollection
  | _ => .error .noRoute

/-- The route of a request. -/
def find (baseUrl : String) (method : Method) (url : String) : Except Refusal Route :=
  match segments? baseUrl url with
  | none => .error .unknownHost
  | some segments =>
    match method with
    | .post => ofPost url segments
    | .get => ofGet baseUrl segments

end Route

end Dataspace
