/-
What can go wrong when publishing images or sending registry events.

Each cause is a constructor with what it is about; the wording is in `message`.
-/
import Dataspace.Exchange.Error

namespace Dataspace

/-- A setting that publishing depends on. -/
inductive RegistryField where
  | address
  | repository
  | username
  | password
  | imageName
  | resourceId
deriving DecidableEq

/-- Why an event is not sent. -/
inductive EventDefect where
  | noResources
  | emptyName
  /-- The repository name, which is read as a resource id, is no UUID. -/
  | notResourceId (name : String)
deriving DecidableEq

/-- An error of publishing. -/
inductive RegistryError where
  /-- A setting is absent or blank. -/
  | missing (field : RegistryField)
  /-- The container engine failed. -/
  | engine (command detail : String)
  /-- A push before a successful login. -/
  | loginRequired (registry : String)
  | invalidEvent (defect : EventDefect)
  | connector (error : ConnectorError)
deriving DecidableEq

/-! ## Wording -/

namespace RegistryField

def name : RegistryField → String
  | address => "registry.address"
  | repository => "registry.repository"
  | username => "registry.username"
  | password => "registry.password"
  | imageName => "image.name"
  | resourceId => "resource id"

end RegistryField

namespace EventDefect

def message : EventDefect → String
  | noResources => "no resources"
  | emptyName => "repository name is empty"
  | notResourceId name => s!"repository name '{name}' is not a resource id"

end EventDefect

namespace RegistryError

def message : RegistryError → String
  | missing field => s!"missing configuration: {field.name}"
  | engine command detail => s!"container engine command '{command}' failed: {detail}"
  | loginRequired registry => s!"push to {registry} requires a successful login"
  | invalidEvent defect => s!"invalid registry event: {defect.message}"
  | connector error => error.message

end RegistryError

end Dataspace
