/-
Requests to a connector and its responses.

A URL is absolute and holds no query; the query is a list of keys and values.
A response has a status, the location of what was created, and a body.
-/
import Dataspace.Json.Parser
import Dataspace.Json.Printer

namespace Dataspace

open Text

/-- The two methods of the connector's interface. -/
inductive Method where
  | get
  | post
deriving DecidableEq

namespace Method

def name : Method → String
  | get => "GET"
  | post => "POST"

end Method

/-- A request. -/
structure Request where
  method : Method
  url : String
  query : List (String × String)
  body : Option Json

namespace Request

def get (url : String) : Request :=
  ⟨.get, url, [], none⟩

def post (url : String) (body : Option Json) : Request :=
  ⟨.post, url, [], body⟩

/-- The request with one more query parameter at the end. -/
def withQuery (r : Request) (key value : String) : Request :=
  { r with query := r.query ++ [(key, value)] }

/-- The request with a query parameter if there is a value for it. -/
def withQueryIf (r : Request) (key : String) : Option String → Request
  | some value => r.withQuery key value
  | none => r

/-- The first value given for a key. -/
def parameter? (r : Request) (key : String) : Option String :=
  r.query.lookup key

end Request

/-- A response, whatever its status. -/
structure Response where
  status : Nat
  location : Option String
  body : Bytes
deriving DecidableEq

namespace Response

/-- Statuses from 200 to 299 are successes. -/
def isSuccess (r : Response) : Bool :=
  200 ≤ r.status && r.status < 300

/-- The body as text, whatever its bytes. -/
def text (r : Response) : String :=
  Utf8.decodeLossy r.body

/-- A response with a JSON body and no location. -/
def ofJson (status : Nat) (v : Json) : Response :=
  ⟨status, none, Utf8.encode v.compact⟩

/-- The message that a refusal carries: the first of the members `message`, `error`
and `detail` of its body that is a text. -/
def message? (r : Response) : Option String := do
  let v ← Json.parseBytes? r.body
  ["message", "error", "detail"].findSome? fun key => (v.get? key).bind Json.asString?

end Response

end Dataspace
