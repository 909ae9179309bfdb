/-
The client of a connector.

A client knows the connector's base URL and a transport.  Every request that is
not answered with a success is an error; creating an entity yields the handle
that the connector assigned, and linking adds a child to its parent's
collection.
-/
import Dataspace.Exchange.Transport

namespace Dataspace

open Text

/-- A session with one connector; the base URL has no slash at its end. -/
structure Client (σ : Type) where
  baseUrl : String
  transport : Transport σ

namespace Client

variable {σ : Type}

/-- A client of the connector at `url`. -/
def connect (url : String) (transport : Transport σ) : Client σ :=
  ⟨withoutSlashes url, transport⟩

/-- The absolute URL of a path of the interface. -/
def url (c : Client σ) (path : String) : String :=
  c.baseUrl ++ path

/-! ## Requests -/

/-- What an answer means for the caller: only a success is passed on. -/
def accept (r : Request) : Except Outage Response → Except ConnectorError Response
  | .error outage => .error (.transport r.url outage.detail)
  | .ok response =>
    if response.isSuccess then .ok response
    else .error (.request r.url response.status response.message? response.text)

/-- One request, which has to succeed. -/
def execute (c : Client σ) (r : Request) : Exchange σ Response := fun s =>
  let (answer, next) := c.transport.send r s
  (accept r answer, next)

def get (c : Client σ) (url : String) : Exchange σ Response :=
  c.execute (.get url)

def postJson (c : Client σ) (url : String) (body : Json) : Exchange σ Response :=
  c.execute (.post url (some body))

/-! ## Creating -/

/-- The handle in the location of a response. -/
def locationHandle (url : String) (response : Response) : Except ConnectorError Handle :=
  match response.location.bind filled? with
  | none => .error (.responseFormat url .missingLocation)
  | some location =>
    match Handle.parse location with
    | .ok handle => .ok handle
    | .error e => .error (.responseFormat url (.badLocation e))

/-- Posts a body and gives the handle of what was created. -/
def postForHandle (c : Client σ) (url : String) (body : Json) : Exchange σ Handle := do
  let response ← c.postJson url body
  locationHandle url response

/-- Creates an entity; the handle has to be of its kind. -/
def create (c : Client σ) (kind : EntityKind) (fields : Json) : Exchange σ Handle := do
  let url := c.url kind.createPath
  let handle ← c.postForHandle url fields
  if handle.kind = kind then return handle
  else throw (.responseFormat url (.wrongLocation kind handle.uri))

/-! ## Linking -/

/-- A link request refused with 404 is about a handle that is gone. -/
def staleOn404 (url : String) : ConnectorError → ConnectorError
  | .request u status message body =>
    if status = 404 then .staleHandle url message else .request u status message body
  | e => e

/-- Adds `child` to the collection of `parent`.  Nothing is sent if the kinds do
not go together. -/
def link (c : Client σ) (parent child : Handle) : Exchange σ Unit := do
  if parent.kind.accepts child.kind then
    let url := parent.relationUrl child.kind
    let _ ← (c.postJson url (.texts [child.uri])).adapt (staleOn404 url)
    return ()
  else
    throw (.invalidHandle ⟨child.uri, .notAccepted child.kind parent.kind⟩)

end Client

end Dataspace
