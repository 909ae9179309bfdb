/-
What can go wrong when talking to a connector.

Each cause is a constructor with what it is about; the wording is in `message`.
A refused request carries its status, and a link request refused with 404 is
about a handle that the connector no longer knows.
-/
import Dataspace.Entity.Handle
import Dataspace.Files.Fault

namespace Dataspace

/-- What a response lacks that the caller depends on. -/
inductive FormatFault where
  /-- No location, or a blank one. -/
  | missingLocation
  /-- The location is not a handle. -/
  | badLocation (error : HandleError)
  /-- The location is a handle of another kind. -/
  | wrongLocation (expected : EntityKind) (uri : String)
  | descriptionNotJson
  | metadataNotJson
  /-- The description has no contract offer, the offer no permission, or the
  permission is not an object. -/
  | missingOffer
  | missingPermission
  | permissionNotObject
deriving DecidableEq

/-- What is wrong with a provisioning plan. -/
inductive PlanFault where
  | foreignSlot
  | unknownSlot (index : Nat)
  | notAccepted (child parent : EntityKind)
  | inputsMissing (label : String)
  | incomplete
deriving DecidableEq

/-- An error of an exchange with a connector. -/
inductive ConnectorError where
  /-- The connector refused a request. -/
  | request (url : String) (status : Nat) (message : Option String) (body : String)
  /-- A link request names a handle that the connector does not know. -/
  | staleHandle (url : String) (message : Option String)
  | responseFormat (url : String) (fault : FormatFault)
  | invalidHandle (error : HandleError)
  | invalidPlan (fault : PlanFault)
  /-- The window of a contract leaves the calendar. -/
  | contractWindow (days : Int)
  /-- No response came at all. -/
  | transport (url detail : String)
  /-- Fetched data could not be stored. -/
  | write (path : String) (fault : FileFault)
deriving DecidableEq

/-! ## Wording -/

namespace FormatFault

def message : FormatFault → String
  | missingLocation => "missing Location header"
  | badLocation error => s!"Location header is not an entity handle: {error.message}"
  | wrongLocation expected uri => s!"expected a {expected.name} location, got {uri}"
  | descriptionNotJson => "description is not JSON: malformed text"
  | metadataNotJson => "artifact metadata is not JSON: malformed text"
  | missingOffer => "description has no ids:contractOffer"
  | missingPermission => "description has no ids:permission"
  | permissionNotObject => "description has no permission object"

end FormatFault

namespace PlanFault

def message : PlanFault → String
  | foreignSlot => "slot belongs to a different plan"
  | unknownSlot index => s!"unknown slot #{index}"
  | notAccepted child parent => s!"a {child.name} cannot be added to a {parent.name}"
  | inputsMissing label => s!"{label}: inputs missing"
  | incomplete => "plan did not complete"

end PlanFault

namespace ConnectorError

/-- A message of the connector, after a colon. -/
def suffix : Option String → String
  | some message => ": " ++ message
  | none => ""

def message : ConnectorError → String
  | request url status message _ =>
    s!"request to {url} failed with status {status}" ++ suffix message
  | staleHandle url message => s!"stale handle in link request to {url}" ++ suffix message
  | responseFormat url fault => s!"unexpected response from {url}: {fault.message}"
  | invalidHandle error => error.message
  | invalidPlan fault => s!"invalid provisioning plan: {fault.message}"
  | contractWindow days => s!"contract window of {days} days is out of range"
  | transport url detail => s!"transport error for {url}: {detail}"
  | write path fault => s!"cannot write {path}: {fault.message}"

/-- The status that the connector answered with, if it answered. -/
def status? : ConnectorError → Option Nat
  | request _ status _ _ => some status
  | staleHandle .. => some 404
  | _ => none

/-- The connector does not know what was asked for. -/
def isNotFound (e : ConnectorError) : Bool :=
  e.status? == some 404

/-- The error behind this one, for reports that show the whole chain. -/
def cause? : ConnectorError → Option String
  | write _ fault => some fault.message
  | _ => none

end ConnectorError

end Dataspace
