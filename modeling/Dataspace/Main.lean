/-
The program on a real machine.

The files that a command can need are read beforehand, the program runs on them,
and what it changed is written back.  No connection leaves the machine and no other
program is started: outside dry runs every connection is refused.
-/
import Dataspace.Command.Program
import Dataspace.Text.Sha256
import Std.Time.DateTime.Timestamp

namespace Dataspace.Machine

open Text

/-! ## The files a command can need -/

/-- The absolute paths that are passed on the way along components from `base` on. -/
def places (base : String) : List String → List String
  | [] => [base]
  | name :: rest =>
    if name = "" ∨ name = "." then places base rest
    else if name = ".." then base :: places (Disk.above base) rest
    else base :: places (base ++ "/" ++ name) rest

/-- The directory for downloaded data. -/
def directory? : CommandRequest → Option String
  | .provision _ options => some options.directory
  | .artifact _ _ directory => some directory
  | _ => none

/-- The paths that the program looks at. -/
def paths (here : String) (args : List String) : List String :=
  match Invocation.parse args with
  | .error _ => []
  | .ok i =>
    (i.config.toList ++ (directory? i.request).toList
      ++ (Path.upward here).map fun d => Path.join d configFileName).flatMap fun path =>
        places "" (Path.components (Path.join here path))

/-! ## Reading and writing them -/

/-- What keeps the system from following a path to its end. -/
def obstacle? (path : String) : IO (Option IO.Error) := do
  try
    discard (IO.FS.realPath path)
    return none
  catch e => return some e

/-- What is found at an absolute path, and what is refused there. -/
def peek (path : String) : IO (Option (FileNode × List Access)) := do
  if (← obstacle? path).isSome then return none
  match ← obstacle? (path ++ "/.") with
  | none => return some (.directory, [])
  | some (.permissionDenied ..) => return some (.directory, [.search])
  | some _ =>
    try
      let content ← IO.FS.readBinFile path
      return some (.file content.toList, [])
    catch _ => return some (.file [], [.read])

/-- The files and directories at the given paths. -/
def readAll (here : String) (found : List String) : IO Disk := do
  let mut nodes := []
  let mut refused := []
  for path in found do
    unless path.isEmpty || Keyed.contains path nodes do
      let isBelowFile := match Keyed.lookup (Disk.above path) nodes with
        | some (.file _) => true
        | _ => false
      unless isBelowFile do
        if let some (node, accesses) ← peek path then
          nodes := Keyed.insert path node nodes
          refused := refused ++ accesses.map fun access => (access, path)
  return ⟨here, nodes, refused⟩

/-- Writes the files that have changed. -/
def writeChanges (before after : Disk) : IO Unit := do
  for (path, node) in after.nodes do
    if let .file content := node then
      unless before.node? path == some node do
        IO.FS.writeBinFile path (ByteArray.mk content.toArray)

/-! ## The time and a supply of UUIDs -/

/-- The time of day. -/
def now : IO Time.Instant := do
  let t ← Std.Time.Timestamp.now
  let total := t.toNanosecondsSinceUnixEpoch.val
  return ⟨total / 1000000000, (total % 1000000000).toNat⟩

/-- The UUIDs that follow from some random bytes. -/
def uuids (seed : Bytes) (n : Nat) : Uuid :=
  let digits := (Sha256.hex (seed ++ Utf8.encode (toString n))).toList.take 32
  .ofBits (.ofNat 128 ((hexNumber? digits).getD 0))

end Dataspace.Machine

open Dataspace in
def main (args : List String) : IO UInt32 := do
  let here := (← IO.currentDir).toString
  let disk ← Machine.readAll here (Machine.paths here args)
  let seed ← IO.getRandomBytes 16
  let surroundings : Surroundings Unit Unit :=
    { network := .unreachable
      host := .none
      uuids := Machine.uuids seed.toList
      now := ← Machine.now }
  let (output, after) := runProgram surroundings args (.start () () disk)
  Machine.writeChanges disk after.disk
  IO.print output.stdout
  IO.eprint output.stderr
  return output.exit.toUInt32
