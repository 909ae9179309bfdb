/-
Container engines: what pulls, tags and pushes images.

An engine is a machine with a state.  Each call gives an answer or an error, and
the next state; nothing else is assumed of it.
-/
import Dataspace.Registry.Error

namespace Dataspace

/-- A call of a container engine. -/
inductive EngineCall where
  | login (registry username password : String)
  | pull (image : String)
  | tag (source target : String)
  | push (reference : String)
  | images
deriving DecidableEq

namespace EngineCall

def name : EngineCall → String
  | login .. => "login"
  | pull _ => "pull"
  | tag .. => "tag"
  | push _ => "push"
  | images => "images"

end EngineCall

/-- A computation with an engine of state `η`. -/
abbrev EngineRun (η α : Type) := ExceptT RegistryError (StateM η) α

/-- A container engine. -/
structure Engine (η : Type) where
  login : (registry username password : String) → EngineRun η Unit
  pull : (image : String) → EngineRun η Unit
  /-- Gives a local image another name. -/
  tag : (source target : String) → EngineRun η Unit
  /-- Pushes an image and gives its digest, if the engine reports one. -/
  push : (reference : String) → EngineRun η (Option String)
  /-- The local images. -/
  images : EngineRun η (List String)

namespace Engine

variable {η α : Type}

/-- The run, with a call noted at the end of the record. -/
def noting (call : EngineCall) (run : EngineRun η α) : EngineRun (η × List EngineCall) α :=
  fun s =>
    let (answer, next) := run s.1
    (answer, next, s.2 ++ [call])

/-- The engine that also keeps the calls made, in order. -/
def recording (e : Engine η) : Engine (η × List EngineCall) where
  login registry username password :=
    noting (.login registry username password) (e.login registry username password)
  pull image := noting (.pull image) (e.pull image)
  tag source target := noting (.tag source target) (e.tag source target)
  push reference := noting (.push reference) (e.push reference)
  images := noting .images e.images

/-- The engine that does nothing and reports nothing, for dry runs. -/
def idle : Engine η where
  login _ _ _ := pure ()
  pull _ := pure ()
  tag _ _ := pure ()
  push _ := pure none
  images := pure []

end Engine

end Dataspace
