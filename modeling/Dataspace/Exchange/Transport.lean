/-
Transports: what answers requests.

A transport is a machine with a state: it takes a request and gives a response,
or an outage if there is none, and its next state.  The in-memory connector is
one, the network another; nothing else is assumed of it.
-/
import Dataspace.Exchange.Request
import Dataspace.Exchange.Error

namespace Dataspace

/-- No response came; `detail` says why. -/
structure Outage where
  detail : String
deriving DecidableEq

/-- A machine that answers requests. -/
structure Transport (σ : Type) where
  send : Request → σ → Except Outage Response × σ

namespace Transport

variable {σ : Type}

/-- The transport that also keeps the requests it was sent, in order. -/
def recording (t : Transport σ) : Transport (σ × List Request) where
  send r s :=
    let (answer, next) := t.send r s.1
    (answer, next, s.2 ++ [r])

/-- The transport that gives fixed answers, one after the other, and then none. -/
def scripted : Transport (List (Except Outage Response)) where
  send _ s :=
    match s with
    | [] => (.error ⟨"no response left"⟩, [])
    | answer :: rest => (answer, rest)

end Transport

/-- A computation that exchanges requests and responses and may fail. -/
abbrev Exchange (σ α : Type) := ExceptT ConnectorError (StateM σ) α

end Dataspace
