/-
The command that provisions an offer.

All steps of the offer's plan are run and shown.  The requested follow-ups come
after that, in a fixed order: publish the image, send the event of its push, fetch
the artifact and store its data.  They need the whole offer, and, unless failures
are tolerated, that no step failed; the first follow-up that fails ends the command.
-/
import Dataspace.Command.Artifact
import Dataspace.Command.Image
import Dataspace.Plan.Offer

namespace Dataspace

/-- What a provisioning run is asked to do. -/
structure ProvisionOptions where
  keepGoing : Bool
  publishImage : Bool
  simulateEvent : Bool
  download : Bool
  /-- The directory for downloaded data. -/
  directory : String
deriving DecidableEq

/-- What a provisioning run did. -/
structure ProvisionSummary where
  graph : Option OfferGraph
  failedSteps : Nat
  published : Option PublishReport
  eventSent : Bool
  artifact : Option Json
  download : Option Download

namespace ProvisionOptions

/-- Without tolerance, the first failure ends the run. -/
def policy (o : ProvisionOptions) : FailurePolicy :=
  if o.keepGoing then .keepGoing else .failFast

end ProvisionOptions

namespace StepOutcome

/-- The line that shows what became of a step. -/
def line (o : StepOutcome) : String :=
  match o.status with
  | .done => s!"  ok       {o.label}"
  | .failed e => s!"  FAILED   {o.label}: {e.message}"
  | .skipped => s!"  skipped  {o.label}"

end StepOutcome

namespace Command

variable {σ η α : Type}

/-- The lines that show what was provisioned. -/
def graphLines (g : OfferGraph) : List String :=
  [s!"Resource: {g.resource.uri}", s!"  resource id: {g.resource.id}",
   s!"Artifact: {g.artifact.uri}", s!"  artifact id: {g.artifact.id}"]

/-! ## Follow-ups -/

/-- A follow-up, if it is asked for. -/
def requested (wanted : Bool) (part : Command σ η α) : Command σ η (Option α) := do
  if wanted then
    let a ← part
    return some a
  else return none

/-- Sends the event of a push and tells of it. -/
def tellOfPush (p : Partners σ η) (c : Configuration) (resourceId : String)
    (digest : Option String) : Command σ η Unit := do
  let _ ← sendPushEvent p c resourceId none digest
  say (eventLine resourceId)

/-- Fetches an artifact, shows its metadata and stores its data. -/
def collectArtifact (p : Partners σ η) (artifact : Handle) (directory : String) :
    Command σ η (Json × Download) := do
  let metadata ← during .fetchingArtifact (exchange (p.client.fetchArtifact artifact))
  say metadata.pretty
  let download ← during .downloadingData
    (exchangeStoring (p.client.downloadData artifact directory))
  say (downloadLine download)
  return (metadata, download)

/-- The follow-ups for a provisioned offer. -/
def followUp (p : Partners σ η) (c : Configuration) (o : ProvisionOptions) (failedSteps : Nat)
    (g : OfferGraph) : Command σ η ProvisionSummary := do
  sayAll (graphLines g)
  let published ← requested o.publishImage (publish p c.registry c.image g.resource.id)
  let sent ← requested o.simulateEvent
    (tellOfPush p c g.resource.id (published.bind PublishReport.digest))
  let collected ← requested o.download (collectArtifact p g.artifact o.directory)
  return { graph := some g
           failedSteps := failedSteps
           published := published
           eventSent := sent.isSome
           artifact := collected.map Prod.fst
           download := collected.map Prod.snd }

/-! ## The command -/

/-- Provisions the configured offer, with its follow-ups. -/
def provisionOffer (p : Partners σ η) (c : Configuration) (o : ProvisionOptions) :
    Command σ η ProvisionSummary := do
  let (plan, slots) ← ofExcept .connector (Plan.offer 0 c.offerTemplate p.now)
  let report ← observing (plan.run p.client o.policy)
  sayAll (report.outcomes.map StepOutcome.line)
  if o.keepGoing then pure ()
  else
    let _ ← during .provisioningOffer (ofExcept .connector report.result)
  match slots.resolve report with
  | some g => followUp p c o report.failures.length g
  | none =>
    return { graph := none
             failedSteps := report.failures.length
             published := none
             eventSent := false
             artifact := none
             download := none }

/-- The command; it fails in the end if a step failed. -/
def provision (p : Partners σ η) (c : Configuration) (o : ProvisionOptions) :
    Command σ η Unit := do
  let summary ← provisionOffer p c o
  if summary.failedSteps = 0 then return ()
  else failing (.stepsFailed summary.failedSteps)

end Command

end Dataspace
