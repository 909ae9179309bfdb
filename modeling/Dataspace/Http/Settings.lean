/-
Settings of the connection to a connector.
-/
import Dataspace.Text.Base64
import Dataspace.Text.Blank

namespace Dataspace

open Text

/-- How a connector is reached and as whom; the base URL has no slash at its end. -/
structure ConnectionSettings where
  baseUrl : String
  username : String
  password : String
  /-- The certificate of the connector is not verified. -/
  insecureTls : Bool
  timeoutSeconds : Option Nat
  /-- The pause before every read request. -/
  readDelaySeconds : Nat
deriving DecidableEq

namespace ConnectionSettings

/-- Settings for a URL with credentials; certificates are verified, and there is neither
a time-out nor a pause. -/
def ofUrl (url username password : String) : ConnectionSettings where
  baseUrl := withoutSlashes url
  username := username
  password := password
  insecureTls := false
  timeoutSeconds := none
  readDelaySeconds := 0

/-- The credentials as they are sent: user name and password around a colon, in
Base64. -/
def authorization (s : ConnectionSettings) : String :=
  "Basic " ++ Base64.encode (Utf8.encode (s.username ++ ":" ++ s.password))

end ConnectionSettings

end Dataspace
