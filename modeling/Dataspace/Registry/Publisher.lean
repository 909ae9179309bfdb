/-
Publishing an image: pull it, tag it with the reference of a resource, log in to
the registry, and push it.

A publisher has checked every setting before the engine is called at all, and
keeps the last stage it reached.  A call that fails changes neither the stage nor
the login, and nothing is rolled back.  A push without a login is refused without
calling the engine.
-/
import Dataspace.Registry.Engine
import Dataspace.Registry.Reference

namespace Dataspace

/-- The stages of an image on its way to the registry. -/
inductive PublishStage where
  | pulled
  | tagged
  | pushed
deriving DecidableEq

namespace PublishStage

def name : PublishStage → String
  | pulled => "Pulled"
  | tagged => "Tagged"
  | pushed => "Pushed"

end PublishStage

/-- An image to publish and how far it has come. -/
structure Publisher where
  source : String
  reference : ImageReference
  username : String
  password : String
  stage : Option PublishStage
  loggedIn : Bool
deriving DecidableEq

/-- The result of publishing. -/
structure PublishReport where
  reference : ImageReference
  stage : PublishStage
  digest : Option String
  /-- The local images after tagging. -/
  images : List String
deriving DecidableEq

/-- A computation with a publisher and an engine. -/
abbrev Publishing (η α : Type) := ExceptT RegistryError (StateM (Publisher × η)) α

namespace Publisher

variable {η α : Type}

/-- The publisher for a resource's image: the image name, the parts of the reference
and the credentials are asked for in this order. -/
def ofSettings (registry : RegistrySettings) (image : ImageSettings) (resourceId : String) :
    Except RegistryError Publisher := do
  let source ← RegistryField.imageName.demand image.name
  let reference ← ImageReference.ofResource registry resourceId image.version
  let (username, password) ← registry.demandCredentials
  return ⟨source, reference, username, password, none, false⟩

/-! ## Single calls -/

/-- One engine call; the publisher changes only if it succeeds. -/
def calling (call : Publisher → EngineRun η α) (change : Publisher → Publisher) :
    Publishing η α := fun (p, s) =>
  match call p s with
  | (.ok a, s) => (.ok a, change p, s)
  | (.error e, s) => (.error e, p, s)

/-- The publisher at a stage. -/
def reaching (stage : PublishStage) (p : Publisher) : Publisher :=
  { p with stage := some stage }

def pull (e : Engine η) : Publishing η Unit :=
  calling (fun p => e.pull p.source) (reaching .pulled)

def tag (e : Engine η) : Publishing η Unit :=
  calling (fun p => e.tag p.source p.reference.text) (reaching .tagged)

/-- The local images. -/
def listImages (e : Engine η) : Publishing η (List String) :=
  calling (fun _ => e.images) id

def login (e : Engine η) : Publishing η Unit :=
  calling (fun p => e.login p.reference.registry p.username p.password)
    fun p => { p with loggedIn := true }

/-- Pushes the image; only after a login. -/
def push (e : Engine η) : Publishing η (Option String) := fun (p, s) =>
  if p.loggedIn then calling (fun p => e.push p.reference.text) (reaching .pushed) (p, s)
  else (.error (.loginRequired p.reference.registry), p, s)

/-! ## All calls -/

/-- Pull, tag, list, log in and push; the first failure ends it. -/
def run (e : Engine η) : Publishing η PublishReport := do
  pull e
  tag e
  let images ← listImages e
  login e
  let digest ← push e
  let (p, _) ← get
  return ⟨p.reference, .pushed, digest, images⟩

end Publisher

/-- Publishes an image as that of a resource. -/
def publishImage {η : Type} (e : Engine η) (registry : RegistrySettings) (image : ImageSettings)
    (resourceId : String) : EngineRun η PublishReport := fun s =>
  match Publisher.ofSettings registry image resourceId with
  | .error x => (.error x, s)
  | .ok p =>
    let (result, _, s) := Publisher.run e (p, s)
    (result, s)

end Dataspace
