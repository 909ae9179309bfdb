/-
Failures of commands.

A failure has a fault at its bottom and, from outside in, the activities during
which it arose.  It is shown as one line: the activities, the fault, and the error
behind the fault if there is one, with colons between them.
-/
import Dataspace.Config.Search
import Dataspace.Registry.Error

namespace Dataspace

/-- What was being done. -/
inductive Activity where
  | readingFile (path : String)
  | parsingFile (path : String)
  | writingFile (path : String)
  | provisioningOffer
  | requestingDescription (resource : String)
  | requestingContract
  | publishingImage (resourceId : String)
  | sendingEvent
  | fetchingArtifact
  | fetching (artifact : String)
  | downloadingData
  | downloadingDataOf (artifact : String)
deriving DecidableEq

/-- What went wrong. -/
inductive CommandFault where
  | connector (error : ConnectorError)
  | registry (error : RegistryError)
  | file (fault : FileFault)
  /-- A file that is no TOML document, or no configuration. -/
  | notConfiguration
  | configurationExists (path : String)
  | noConfiguration
  | stepsFailed (count : Nat)
  | handlesMissing
deriving DecidableEq

/-- A fault and, from outside in, what was being done. -/
structure CommandError where
  during : List Activity
  fault : CommandFault
deriving DecidableEq

/-! ## Wording -/

namespace Activity

def text : Activity → String
  | readingFile path => s!"reading {path}"
  | parsingFile path => s!"parsing {path}"
  | writingFile path => s!"writing {path}"
  | provisioningOffer => "provisioning offer"
  | requestingDescription resource => s!"requesting description of {resource}"
  | requestingContract => "requesting contract"
  | publishingImage resourceId => s!"publishing image for resource {resourceId}"
  | sendingEvent => "sending registry event"
  | fetchingArtifact => "fetching artifact"
  | fetching artifact => s!"fetching {artifact}"
  | downloadingData => "downloading artifact data"
  | downloadingDataOf artifact => s!"downloading data of {artifact}"

end Activity

namespace CommandFault

def message : CommandFault → String
  | connector error => error.message
  | registry error => error.message
  | file fault => fault.message
  | notConfiguration => "malformed configuration"
  | configurationExists path => s!"{path} already exists"
  | noConfiguration => "no idsprov.toml found (run `idsprov init` first)"
  | stepsFailed count => s!"{count} provisioning step(s) failed"
  | handlesMissing => "provisioned offer is missing handles"

/-- The error of the connector behind a fault. -/
def connectorError? : CommandFault → Option ConnectorError
  | connector error => some error
  | registry (.connector error) => some error
  | _ => none

/-- The fault and the error behind it. -/
def messages (f : CommandFault) : List String :=
  match f.connectorError?.bind ConnectorError.cause? with
  | some cause => [f.message, cause]
  | none => [f.message]

end CommandFault

namespace CommandError

def message (e : CommandError) : String :=
  ": ".intercalate (e.during.map Activity.text ++ e.fault.messages)

/-- The failure of loading a configuration. -/
def ofLoad : LoadFault → CommandError
  | .unreadable path fault => ⟨[.readingFile path], .file fault⟩
  | .malformed path => ⟨[.parsingFile path], .notConfiguration⟩

end CommandError

end Dataspace
