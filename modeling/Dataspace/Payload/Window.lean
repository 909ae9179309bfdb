/-
Contract windows computed from an instant.

A window starts at an instant and ends so many days later.  It is refused, with
the number of days, where its end has no date in the calendar.
-/
import Dataspace.Exchange.Error
import Dataspace.Payload.Basic
import Dataspace.Time.Instant

namespace Dataspace

open Time

/-- The days that a contract runs when no window is configured. -/
def defaultContractDays : Int := 240

namespace ContractPayload

/-- The window from `start` on for `days` days. -/
def window (start : Instant) (days : Int) : Except ConnectorError ContractPayload :=
  match start.addDays? days with
  | some finish => .ok ⟨start.rfc3339, finish.rfc3339⟩
  | none => .error (.contractWindow days)

/-- The window, if there is one. -/
def window? (start : Instant) (days : Int) : Option ContractPayload :=
  (window start days).toOption

/-- The window from now on for the default number of days. -/
def fromNow? (now : Instant) : Option ContractPayload :=
  window? now defaultContractDays

end ContractPayload

end Dataspace
