/-
Configurations.

A configuration says how the connector is reached, which registry and image are
used, and which offer is provisioned.  Only the connector has to be configured.
It is written as JSON with all its members and read from JSON or from TOML.
-/
import Dataspace.Exchange.Client
import Dataspace.Http.Settings
import Dataspace.Payload.Offer
import Dataspace.Registry.Settings
import Dataspace.Toml.Document

namespace Dataspace

open Text

/-- The built-in offer that is meant when none is configured. -/
inductive Profile where
  | remote
  | onLocalHost
deriving DecidableEq

/-- The connector and the credentials for it. -/
structure ConnectorSection where
  url : String
  username : String
  password : String
  insecureTls : Bool
  /-- The pause before every read request. -/
  readDelaySeconds : Nat
  timeoutSeconds : Option Nat
deriving DecidableEq

/-- Whom contracts are negotiated with, and whether data is to be downloaded at once. -/
structure NegotiationSection where
  recipient : Option String
  download : Bool
deriving DecidableEq

/-- A configuration. -/
structure Configuration where
  connector : ConnectorSection
  profile : Profile
  registry : RegistrySettings
  image : ImageSettings
  offer : Option OfferTemplate
  negotiation : NegotiationSection
deriving DecidableEq

/-! ## JSON form -/

open Json

namespace Profile

def name : Profile → String
  | remote => "remote"
  | onLocalHost => "local"

def ofName? (s : String) : Option Profile :=
  [remote, onLocalHost].find? fun p => p.name == s

end Profile

namespace ConnectorSection

/-- The pause when none is configured. -/
def defaultReadDelay : Nat := 5

def memberNames : List String :=
  ["url", "username", "password", "insecure_tls", "read_delay_secs", "timeout_secs"]

def toJson (c : ConnectorSection) : Json :=
  .object
    [("url", .str c.url), ("username", .str c.username), ("password", .str c.password),
     ("insecure_tls", .bool c.insecureTls), ("read_delay_secs", .nat c.readDelaySeconds),
     ("timeout_secs", .option .nat c.timeoutSeconds)]

/-- A number of seconds has 64 bits. -/
def seconds? : Json → Option Nat :=
  natBelow 0x10000000000000000

def ofJson? (v : Json) : Option ConnectorSection := do
  match ← v.fields? memberNames with
  | [url, username, password, insecureTls, readDelay, timeout] =>
    return { url := ← required asString? url
             username := ← required asString? username
             password := ← required asString? password
             insecureTls := ← withDefault asBool? false insecureTls
             readDelaySeconds := ← withDefault seconds? defaultReadDelay readDelay
             timeoutSeconds := ← withDefault (optional seconds?) none timeout }
  | _ => none

end ConnectorSection

namespace NegotiationSection

def empty : NegotiationSection :=
  ⟨none, false⟩

def memberNames : List String :=
  ["recipient", "download"]

def toJson (n : NegotiationSection) : Json :=
  .object [("recipient", .option .str n.recipient), ("download", .bool n.download)]

def ofJson? (v : Json) : Option NegotiationSection := do
  match ← v.fields? memberNames with
  | [recipient, download] =>
    return ⟨← withDefault (optional asString?) none recipient,
      ← withDefault asBool? false download⟩
  | _ => none

end NegotiationSection

namespace Configuration

def memberNames : List String :=
  ["connector", "profile", "registry", "image", "offer", "negotiation"]

def toJson (c : Configuration) : Json :=
  .object
    [("connector", c.connector.toJson), ("profile", .str c.profile.name),
     ("registry", c.registry.toJson), ("image", c.image.toJson),
     ("offer", .option OfferTemplate.toJson c.offer), ("negotiation", c.negotiation.toJson)]

/-- Reads a configuration; `isUnit` accepts the value beside the name of a profile in
its object form. -/
def read? (isUnit : Json → Bool) (v : Json) : Option Configuration := do
  let profile? (v : Json) : Option Profile := (v.name? isUnit).bind Profile.ofName?
  match ← v.fields? memberNames with
  | [connector, profile, registry, image, offer, negotiation] =>
    return { connector := ← required ConnectorSection.ofJson? connector
             profile := ← withDefault profile? .remote profile
             registry := ← withDefault RegistrySettings.ofJson? .empty registry
             image := ← withDefault ImageSettings.ofJson? .empty image
             offer := ← withDefault (optional OfferTemplate.ofJson?) none offer
             negotiation := ← withDefault NegotiationSection.ofJson? .empty negotiation }
  | _ => none

/-- The configuration that a JSON value is. -/
def ofJson? : Json → Option Configuration :=
  read? isNull

/-- TOML has no `null`; an empty array or table takes its place beside a name. -/
def isEmptyContainer : Json → Bool
  | .arr [] => true
  | .obj [] => true
  | _ => false

/-- The records in a configuration. -/
def outline : Outline :=
  .record
    [("connector", .flat ConnectorSection.memberNames), ("profile", .value),
     ("registry", .flat RegistrySettings.memberNames),
     ("image", .flat ImageSettings.memberNames), ("offer", OfferTemplate.outline),
     ("negotiation", .flat NegotiationSection.memberNames)]

/-- The configuration that a TOML document is.  Where an array stands for a record,
what it holds beyond the fields of the record does not count. -/
def ofToml? (s : String) : Option Configuration :=
  (Toml.parse? s).bind fun v => read? isEmptyContainer (outline.trim v)

/-! ## What a configuration stands for -/

/-- The settings of the connection to the connector. -/
def connection (c : Configuration) : ConnectionSettings :=
  { ConnectionSettings.ofUrl c.connector.url c.connector.username c.connector.password with
    insecureTls := c.connector.insecureTls
    timeoutSeconds := c.connector.timeoutSeconds
    readDelaySeconds := c.connector.readDelaySeconds }

/-- The offer to provision. -/
def offerTemplate (c : Configuration) : OfferTemplate :=
  match c.offer, c.profile with
  | some offer, _ => offer
  | none, .remote => .standard
  | none, .onLocalHost => .onLocalHost

/-- The offer to negotiate. -/
def negotiatedTemplate (c : Configuration) : OfferTemplate :=
  c.offer.getD .negotiation

/-- Whom descriptions and contracts are requested from: the configured recipient, or
the data path of the connector itself. -/
def recipient (c : Configuration) : String :=
  c.negotiation.recipient.getD (withoutSlashes c.connector.url ++ "/api/ids/data")

end Configuration

end Dataspace
