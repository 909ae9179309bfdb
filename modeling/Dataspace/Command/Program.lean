/-
The program: from arguments to an exit code and what was printed.

A dry run talks to a new in-memory connector and to an engine that does nothing;
any other run talks to the configured connector over the network and to `docker`.
A failure is printed to the error output and gives the exit code one; arguments
that are refused give two.
-/
import Dataspace.Command.Arguments
import Dataspace.Command.Init
import Dataspace.Command.Negotiate
import Dataspace.Connector.Site
import Dataspace.Http.Network
import Dataspace.Registry.Docker

namespace Dataspace

/-- What surrounds the program: the network, the programs that can be started, a supply
of UUIDs and the time. -/
structure Surroundings (ν η : Type) where
  network : Http.Network ν
  host : ProgramHost η
  uuids : Nat → Uuid
  now : Time.Instant

/-! ## Partners -/

namespace Configuration

/-- A new in-memory connector in place of the configured one. -/
def dryClient (c : Configuration) (uuids : Nat → Uuid) : Client Store :=
  let url := c.connection.baseUrl
  .connect url (Site.ofUrl url uuids).transport

end Configuration

namespace Surroundings

variable {ν η : Type}

/-- The partners of a dry run. -/
def dryPartners (s : Surroundings ν η) (c : Configuration) : Partners Store Unit :=
  ⟨c.dryClient s.uuids, .idle, s.now⟩

/-- The partners of a run with the configured connector. -/
def livePartners (s : Surroundings ν η) (c : Configuration) : Partners ν η :=
  ⟨.connect c.connection.baseUrl (s.network.transport c.connection),
    Docker.standard.engine s.host, s.now⟩

end Surroundings

/-! ## Running commands -/

namespace Command

variable {ν η α : Type}

/-- A command on a new in-memory connector, with the same files and output. -/
def aside (command : Command Store Unit α) : Command ν η α := fun d =>
  let (result, after) := command { d with link := Store.empty, engine := () }
  (result, { d with disk := after.disk, printed := after.printed })

/-- A command for either kind of run. -/
def either (s : Surroundings ν η) (c : Configuration) (dryRun : Bool)
    (command : {σ ε : Type} → Partners σ ε → Command σ ε Unit) : Command ν η Unit :=
  if dryRun then aside (command (s.dryPartners c)) else command (s.livePartners c)

/-- The configuration in the named file, or else the nearest one. -/
def configuration (named : Option String) : Command ν η Configuration := fun d =>
  match named with
  | some path =>
    match Configuration.load d.disk path with
    | .ok c => (.ok c, d)
    | .error e => (.error (.ofLoad e), d)
  | none =>
    match Configuration.find d.disk d.disk.workingDirectory with
    | .ok (some (c, _)) => (.ok c, d)
    | .ok none => (.error ⟨[], .noConfiguration⟩, d)
    | .error e => (.error (.ofLoad e), d)

/-- Does what is asked for. -/
def perform (s : Surroundings ν η) (i : Invocation) : Command ν η Unit := do
  match i.request with
  | .init profile =>
    let d ← get
    init d.disk.workingDirectory profile
  | .provision dryRun options =>
    let c ← configuration i.config
    either s c dryRun fun p => provision p c options
  | .negotiate dryRun recipient =>
    let c ← configuration i.config
    either s c dryRun fun p => negotiate p c recipient
  | .publishImage dryRun resourceId version =>
    let c ← configuration i.config
    either s c dryRun fun p => publishImageOf p c resourceId version
  | .simulateEvent dryRun resourceId tag =>
    let c ← configuration i.config
    either s c dryRun fun p => simulateEvent p c resourceId tag
  | .artifact uri withData directory =>
    let c ← configuration i.config
    showArtifact (s.livePartners c) uri withData directory

end Command

/-! ## The program -/

/-- How the program ended and what it wrote. -/
structure ProgramOutput where
  exit : Nat
  stdout : String
  stderr : String
deriving DecidableEq

namespace ProgramOutput

/-- The commands and options. -/
def usage : String :=
  "\n".intercalate
    ["Usage: idsprov [--config <FILE>] [--verbose] <COMMAND>", "",
     "Commands:",
     "  init            [--local]",
     "  provision       [--dry-run] [--keep-going] [--publish-image] [--simulate-event]",
     "                  [--download] [--out <DIR>]",
     "  negotiate       [--dry-run] [--recipient <URL>]",
     "  publish-image   --resource-id <ID> [--version <VERSION>] [--dry-run]",
     "  simulate-event  --resource-id <ID> [--tag <TAG>] [--dry-run]",
     "  artifact        <HANDLE> [--data] [--out <DIR>]", ""]

/-- What is written in place of a command's output. -/
def ofNotice : Notice → ProgramOutput
  | .refused => ⟨2, "", usage⟩
  | .help => ⟨0, usage, ""⟩
  | .version => ⟨0, "idsprov 0.1.0\n", ""⟩

/-- What a command wrote, and its failure. -/
def ofResult (written : String) : Except CommandError Unit → ProgramOutput
  | .ok () => ⟨0, written, ""⟩
  | .error e => ⟨1, written, s!"error: {e.message}\n"⟩

end ProgramOutput

/-- Runs the program with its arguments. -/
def runProgram {ν η : Type} (s : Surroundings ν η) (args : List String) (d : Desk ν η) :
    ProgramOutput × Desk ν η :=
  match Invocation.parse args with
  | .error notice => (.ofNotice notice, d)
  | .ok invocation =>
    let (result, after) := Command.perform s invocation d
    (.ofResult after.output result, after)

end Dataspace
