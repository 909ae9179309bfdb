/-
The command that provisions an offer and negotiates a contract for its artifact.
-/
import Dataspace.Command.Desk
import Dataspace.Exchange.Negotiation
import Dataspace.Plan.Offer

namespace Dataspace

/-- What a negotiation came to. -/
structure NegotiationOutcome where
  graph : OfferGraph
  policy : Json
  answer : ContractAnswer

namespace Command

variable {σ η : Type}

/-- Provisions the offer to negotiate. -/
def provisionNegotiated (p : Partners σ η) (c : Configuration) : Command σ η OfferGraph := do
  let (plan, slots) ← ofExcept .connector (Plan.offer 0 c.negotiatedTemplate p.now)
  let report ← observing (plan.run p.client .failFast)
  let report ← during .provisioningOffer (ofExcept .connector report.result)
  match slots.resolve report with
  | some g => return g
  | none => failing .handlesMissing

/-- Provisions the offer, takes the policy from the description of its resource, and
submits the policy for its artifact. -/
def negotiateOffer (p : Partners σ η) (c : Configuration) (recipient : String) :
    Command σ η NegotiationOutcome := do
  let g ← provisionNegotiated p c
  sayAll [s!"Resource: {g.resource.uri}", s!"Artifact: {g.artifact.uri}"]
  let description ← during (.requestingDescription g.resource.uri)
    (exchange (p.client.describe (some recipient) (some g.resource.uri)))
  let policy ← ofExcept .connector (extractPolicy description g.artifact)
  let answer ← during .requestingContract
    (exchange (p.client.negotiate (some recipient) g.resource g.artifact c.negotiation.download
      policy))
  return ⟨g, policy, answer⟩

/-- The answer as it is shown: laid out if it is JSON, else as it is. -/
def answerText (a : ContractAnswer) : String :=
  match a.json? with
  | some v => v.pretty
  | none => a.body

/-- The command; the recipient is the configured one unless it is given. -/
def negotiate (p : Partners σ η) (c : Configuration) (recipient : Option String) :
    Command σ η Unit := do
  let outcome ← negotiateOffer p c (recipient.getD c.recipient)
  sayAll [s!"Contract response ({outcome.answer.status}):", answerText outcome.answer]

end Command

end Dataspace
