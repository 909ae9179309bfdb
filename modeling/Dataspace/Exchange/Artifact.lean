/-
Artifact metadata and data.

Data is stored byte for byte in a file named after the artifact's id, and is
fingerprinted with SHA-256 so that copies can be compared.  Nothing is stored
unless the connector answered with a success.
-/
import Dataspace.Exchange.Client
import Dataspace.Files.Disk
import Dataspace.Text.Sha256

namespace Dataspace

open Text

/-! ## Fingerprints -/

/-- The SHA-256 digest of some data, in lower-case hexadecimal. -/
structure DataDigest where
  hex : String
deriving DecidableEq

namespace DataDigest

def of (data : Bytes) : DataDigest :=
  ⟨Sha256.hex data⟩

/-- The digest as it is shown. -/
def text (d : DataDigest) : String :=
  "sha256:" ++ d.hex

/-- The digest is that of the data. -/
def isOf (d : DataDigest) (data : Bytes) : Bool :=
  of data == d

end DataDigest

/-! ## Requests -/

/-- The name of the file that data of an artifact is stored in. -/
def dataFileName (artifact : Handle) : String :=
  artifact.id ++ ".json"

/-- Stored data: where, how many bytes, and their digest. -/
structure Download where
  path : String
  size : Nat
  digest : DataDigest
deriving DecidableEq

/-- Stores data of an artifact in a directory. -/
def storeData (artifact : Handle) (directory : String) (data : Bytes) (disk : Disk) :
    Except ConnectorError Download × Disk :=
  let path := Path.join directory (dataFileName artifact)
  match disk.write path data with
  | .ok disk => (.ok ⟨path, data.length, .of data⟩, disk)
  | .error fault => (.error (.write path fault), disk)

namespace Client

variable {σ : Type}

/-- The metadata of an artifact. -/
def fetchArtifact (c : Client σ) (artifact : Handle) : Exchange σ Json := do
  let response ← c.get artifact.uri
  match Json.parseBytes? response.body with
  | some v => return v
  | none => throw (.responseFormat artifact.uri .metadataNotJson)

/-- Fetches the data of an artifact and stores it in a directory. -/
def downloadData (c : Client σ) (artifact : Handle) (directory : String) :
    Exchange (σ × Disk) Download := fun (s, disk) =>
  match c.get (artifact.uri ++ "/data") s with
  | (.error e, next) => (.error e, next, disk)
  | (.ok response, next) =>
    let (result, disk) := storeData artifact directory response.body disk
    (result, next, disk)

end Client

end Dataspace
