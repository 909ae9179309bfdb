/-
Dry runs of provisioning.

A dry run talks to a new in-memory connector and to an engine that does nothing, so
the configuration alone decides whether it succeeds.  The offer is whole unless the
base URL begins with a blank, an image is published unless a setting for it is blank,
and its event is sent unless one of the two settings in the reference is.
-/
import Dataspace.Proofs.BlankBase
import Dataspace.Proofs.Negotiating
import Dataspace.Proofs.Notifying
import Dataspace.Proofs.Provisioning
import Dataspace.Proofs.Success

namespace Dataspace

open Text

/-! ## The follow-ups of a dry run -/

namespace Configuration

end Configuration

namespace Command

section Parts

variable {σ η : Type} {p : Partners σ η} (c : Configuration) {id : String}

end Parts

/-! ### The event -/

section Notifying

variable {η : Type} {site : Site} {engine : Engine η} {now : Time.Instant} (c : Configuration)

end Notifying

/-! ## The command -/

variable {σ η : Type} {p : Partners σ η} {c : Configuration} {o : ProvisionOptions} {d : Desk σ η}
  {t : σ} {sound : Prop} {ends : Desk σ η → Prop}

end Command

/-! ## The whole -/

section DryRun

variable {ν η : Type} (s : Surroundings ν η) (c : Configuration) (o : ProvisionOptions)
  (d : Desk Store Unit)

theorem Surroundings.dryPartners_eq : s.dryPartners c
    = ⟨(Site.ofUrl c.connector.url s.uuids).client, .idle, s.now⟩ := by
  rw [dryPartners, c.dryClient_eq]

end DryRun

end Dataspace
