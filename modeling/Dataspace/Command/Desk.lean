/-
What commands work with.

A command talks to a connector and to a container engine, reads and writes files,
and prints lines.  The desk holds the states of all four.  Exchanges with the
connector and calls of the engine are carried out at the desk, and their errors
become failures of the command.
-/
import Dataspace.Command.Error
import Dataspace.Exchange.Client
import Dataspace.Registry.Engine

namespace Dataspace

/-- The state of the connector's transport, that of the container engine, the files,
and the lines printed so far. -/
structure Desk (σ η : Type) where
  link : σ
  engine : η
  disk : Disk
  printed : List String

/-- A command, or a part of one. -/
abbrev Command (σ η α : Type) := ExceptT CommandError (StateM (Desk σ η)) α

/-- Whom a command talks to, and the time of the run. -/
structure Partners (σ η : Type) where
  client : Client σ
  engine : Engine η
  now : Time.Instant

namespace Desk

variable {σ η : Type}

/-- The desk at the beginning of a command. -/
def start (link : σ) (engine : η) (disk : Disk) : Desk σ η :=
  ⟨link, engine, disk, []⟩

/-- Everything that was printed. -/
def output (d : Desk σ η) : String :=
  String.join (d.printed.map (· ++ "\n"))

end Desk

namespace Command

variable {σ η α : Type}

/-- A failure without an activity. -/
def failing (fault : CommandFault) : Command σ η α := fun d =>
  (.error ⟨[], fault⟩, d)

/-- The result, or its error as a failure. -/
def ofExcept {ε : Type} (toFault : ε → CommandFault) : Except ε α → Command σ η α
  | .ok a => fun d => (.ok a, d)
  | .error e => failing (toFault e)

/-- A part of a command; a failure of it arose during the activity. -/
def during (activity : Activity) (part : Command σ η α) : Command σ η α := fun d =>
  match part d with
  | (.ok a, d) => (.ok a, d)
  | (.error e, d) => (.error { e with during := activity :: e.during }, d)

/-- Prints a line. -/
def say (line : String) : Command σ η Unit := fun d =>
  (.ok (), { d with printed := d.printed ++ [line] })

/-- Prints lines. -/
def sayAll (lines : List String) : Command σ η Unit := fun d =>
  (.ok (), { d with printed := d.printed ++ lines })

/-! ## Carrying out -/

/-- An exchange with the connector. -/
def exchange (x : Exchange σ α) : Command σ η α := fun d =>
  match x d.link with
  | (.ok a, link) => (.ok a, { d with link := link })
  | (.error e, link) => (.error ⟨[], .connector e⟩, { d with link := link })

/-- An exchange with the connector that also stores files. -/
def exchangeStoring (x : Exchange (σ × Disk) α) : Command σ η α := fun d =>
  match x (d.link, d.disk) with
  | (.ok a, link, disk) => (.ok a, { d with link := link, disk := disk })
  | (.error e, link, disk) => (.error ⟨[], .connector e⟩, { d with link := link, disk := disk })

/-- A run with the connector that cannot fail as a whole. -/
def observing (x : StateM σ α) : Command σ η α := fun d =>
  let (a, link) := x d.link
  (.ok a, { d with link := link })

/-- A notification of the connector about an image. -/
def notification (x : ExceptT RegistryError (StateM σ) α) : Command σ η α := fun d =>
  match x d.link with
  | (.ok a, link) => (.ok a, { d with link := link })
  | (.error e, link) => (.error ⟨[], .registry e⟩, { d with link := link })

/-- Calls of the container engine. -/
def engineRun (x : EngineRun η α) : Command σ η α := fun d =>
  match x d.engine with
  | (.ok a, engine) => (.ok a, { d with engine := engine })
  | (.error e, engine) => (.error ⟨[], .registry e⟩, { d with engine := engine })

end Command

end Dataspace
