/-
The command that shows the metadata of an artifact and stores its data.
-/
import Dataspace.Command.Desk
import Dataspace.Exchange.Artifact

namespace Dataspace.Command

variable {σ η : Type}

/-- The line that tells of stored data. -/
def downloadLine (d : Download) : String :=
  s!"Stored {d.path} ({d.size} bytes, {d.digest.text})"

/-- Shows the metadata of an artifact and, if asked for, stores its data in a
directory. -/
def showArtifact (p : Partners σ η) (uri : String) (withData : Bool) (directory : String) :
    Command σ η Unit := do
  let artifact ← ofExcept (fun e => .connector (.invalidHandle e)) (Handle.parseAs .artifact uri)
  let metadata ← during (.fetching artifact.uri) (exchange (p.client.fetchArtifact artifact))
  say metadata.pretty
  if withData then
    let download ← during (.downloadingDataOf artifact.uri)
      (exchangeStoring (p.client.downloadData artifact directory))
    say (downloadLine download)

end Dataspace.Command
