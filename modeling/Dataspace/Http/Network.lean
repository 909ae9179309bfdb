/-
The connector over a network.

A request goes over the network as a message: a target, the credentials, and a
JSON body with its content type.  What comes back before the connection is closed
must be a reply.
-/
import Dataspace.Exchange.Transport
import Dataspace.Http.Reply
import Dataspace.Http.Settings
import Dataspace.Http.Url

namespace Dataspace.Http

open Text

/-- A request as it is sent. -/
structure Message where
  method : Method
  target : String
  authorization : String
  contentType : Option String
  body : Bytes
deriving DecidableEq

/-- What messages are delivered to, with a state: the bytes that come back before the
connection is closed, or none if it was refused. -/
structure Network (ν : Type) where
  deliver : (secure : Bool) → (host : String) → (port : Nat) → Message → ν → Option Bytes × ν

/-! ## Writing messages -/

/-- The request for a URL with the given credentials. -/
def message (authorization : String) (u : Url) (r : Request) : Message where
  method := r.method
  target := u.target r.query
  authorization := authorization
  contentType :=
    match r.method, r.body with
    | .post, some _ => some "application/json"
    | _, _ => none
  body :=
    match r.method, r.body with
    | .post, some v => Utf8.encode v.compact
    | _, _ => []

/-! ## The transport -/

namespace Network

variable {ν : Type}

/-- The answer of the network to a request. -/
def ask (net : Network ν) (settings : ConnectionSettings) (r : Request) (s : ν) :
    Except Fault Response × ν :=
  match Url.parse r.url with
  | .error fault => (.error (.url fault), s)
  | .ok u =>
    match net.deliver u.secure u.host u.port (message settings.authorization u r) s with
    | (none, s) => (.error .refused, s)
    | (some received, s) => (responseOf received, s)

/-- The connector that is reached over the network with these settings. -/
def transport (net : Network ν) (settings : ConnectionSettings) : Transport ν where
  send r s :=
    let (answer, s) := net.ask settings r s
    (answer.mapError fun fault => ⟨fault.message⟩, s)

/-- The network on which every connection is refused. -/
def unreachable : Network Unit where
  deliver _ _ _ _ s := (none, s)

end Network

end Dataspace.Http
