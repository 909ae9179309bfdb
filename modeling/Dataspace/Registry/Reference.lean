/-
Qualified image references: `registry/repository/resource id`, and `:version` if
there is a version.

All parts are kept without the blanks around them.  Of several missing parts the
first in the order of the reference is reported; a blank version counts as none.
-/
import Dataspace.Registry.Settings

namespace Dataspace

open Text

/-- The name under which the image of a resource is pushed. -/
structure ImageReference where
  registry : String
  repository : String
  resourceId : String
  version : Option String
deriving DecidableEq

namespace ImageReference

/-- The reference made of these parts. -/
def ofParts (registry repository resourceId version : Option String) :
    Except RegistryError ImageReference := do
  let registry ← RegistryField.address.demand registry
  let repository ← RegistryField.repository.demand repository
  let resourceId ← RegistryField.resourceId.demand resourceId
  return ⟨registry, repository, resourceId, version.bind filled?⟩

/-- The reference of a resource in the configured registry. -/
def ofResource (settings : RegistrySettings) (resourceId : String) (version : Option String) :
    Except RegistryError ImageReference :=
  ofParts settings.address settings.repository (some resourceId) version

/-- The version after a colon. -/
def versionSuffix : Option String → String
  | some version => ":" ++ version
  | none => ""

/-- The reference without its version. -/
def path (r : ImageReference) : String :=
  s!"{r.registry}/{r.repository}/{r.resourceId}"

def text (r : ImageReference) : String :=
  r.path ++ versionSuffix r.version

end ImageReference

end Dataspace
