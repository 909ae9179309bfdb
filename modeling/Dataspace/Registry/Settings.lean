/-
Settings of a registry and of the image to publish.

Every setting may be left out, so that a partly filled configuration can be
read.  What depends on a setting asks for it: a setting that is absent or holds
nothing but blanks is an error, and any other is used without the blanks around
it.
-/
import Dataspace.Json.Record
import Dataspace.Registry.Error
import Dataspace.Text.Blank

namespace Dataspace

open Text

/-- Where and as whom images are pushed. -/
structure RegistrySettings where
  address : Option String
  repository : Option String
  username : Option String
  password : Option String
deriving DecidableEq

/-- The image to publish, and the version it is tagged with. -/
structure ImageSettings where
  name : Option String
  version : Option String
deriving DecidableEq

/-- The setting without the blanks around it, if it is given. -/
def RegistryField.demand (field : RegistryField) (value : Option String) :
    Except RegistryError String :=
  match value.bind filled? with
  | some text => .ok text
  | none => .error (.missing field)

namespace RegistrySettings

def empty : RegistrySettings :=
  ⟨none, none, none, none⟩

/-! ## Settings that are depended on -/

def demandAddress (s : RegistrySettings) : Except RegistryError String :=
  RegistryField.address.demand s.address

def demandRepository (s : RegistrySettings) : Except RegistryError String :=
  RegistryField.repository.demand s.repository

/-- The user name and then the password. -/
def demandCredentials (s : RegistrySettings) : Except RegistryError (String × String) := do
  let username ← RegistryField.username.demand s.username
  let password ← RegistryField.password.demand s.password
  return (username, password)

/-! ## JSON form -/

def memberNames : List String :=
  ["address", "repository", "username", "password"]

def toJson (s : RegistrySettings) : Json :=
  .object
    [("address", .option .str s.address), ("repository", .option .str s.repository),
     ("username", .option .str s.username), ("password", .option .str s.password)]

open Json in
def ofJson? (v : Json) : Option RegistrySettings := do
  let text? := withDefault (optional asString?) none
  match ← v.fields? memberNames with
  | [address, repository, username, password] =>
    return ⟨← text? address, ← text? repository, ← text? username, ← text? password⟩
  | _ => none

end RegistrySettings

namespace ImageSettings

def empty : ImageSettings :=
  ⟨none, none⟩

def memberNames : List String :=
  ["name", "version"]

def toJson (s : ImageSettings) : Json :=
  .object [("name", .option .str s.name), ("version", .option .str s.version)]

open Json in
def ofJson? (v : Json) : Option ImageSettings := do
  let text? := withDefault (optional asString?) none
  match ← v.fields? memberNames with
  | [name, version] => return ⟨← text? name, ← text? version⟩
  | _ => none

end ImageSettings

end Dataspace
