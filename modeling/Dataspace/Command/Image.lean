/-
The commands that publish an image and send the event of a push.
-/
import Dataspace.Command.Desk
import Dataspace.Registry.Event
import Dataspace.Registry.Publisher

namespace Dataspace.Command

variable {σ η : Type}

/-! ## Publishing -/

/-- The lines that show a published image. -/
def publishLines (r : PublishReport) : List String :=
  s!"Pushed {r.reference.text}" :: (r.digest.map fun d => s!"  digest: {d}").toList

/-- Publishes an image as that of a resource. -/
def publish (p : Partners σ η) (registry : RegistrySettings) (image : ImageSettings)
    (resourceId : String) : Command σ η PublishReport := do
  let report ← during (.publishingImage resourceId)
    (engineRun (publishImage p.engine registry image resourceId))
  sayAll (publishLines report)
  return report

/-- The command; a version that is given takes the place of the configured one. -/
def publishImageOf (p : Partners σ η) (c : Configuration) (resourceId : String)
    (version : Option String) : Command σ η Unit := do
  let image := { c.image with version := version.orElse fun _ => c.image.version }
  let _ ← publish p c.registry image resourceId
  return ()

/-! ## Sending the event of a push -/

/-- The tag of an event: the given one, the configured version, or `latest`. -/
def eventTag (c : Configuration) (tag : Option String) : String :=
  (tag.orElse fun _ => c.image.version).getD "latest"

/-- Sends the event that the image of a resource was pushed; gives the text of the
response. -/
def sendPushEvent (p : Partners σ η) (c : Configuration) (resourceId : String)
    (tag digest : Option String) : Command σ η String := do
  let reference ← ofExcept .registry (ImageReference.ofResource c.registry resourceId
    c.image.version)
  let event := RegistryEvent.pushed reference (eventTag c tag) digest p.now
  during .sendingEvent (notification (event.send p.client))

/-- The line that tells of an event. -/
def eventLine (resourceId : String) : String :=
  s!"Registry event sent for resource {resourceId}"

/-- The command. -/
def simulateEvent (p : Partners σ η) (c : Configuration) (resourceId : String)
    (tag : Option String) : Command σ η Unit := do
  let body ← sendPushEvent p c resourceId tag none
  say (eventLine resourceId)
  sayAll (if body.isEmpty then [] else [s!"  response: {body}"])

end Dataspace.Command
