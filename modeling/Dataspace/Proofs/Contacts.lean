/-
Commands and whom they talk to.

The requests of a command to the connector and its calls of the container engine are its
contacts.  `Partners.logging` and `Desk.keeping` keep both, each beside the state of the
machine that answers.  Every part of a command is carried over once: with its contacts kept
it comes to the same, and it adds those of the exchange or the engine run it carries out.
-/
import Dataspace.Command.Artifact
import Dataspace.Proofs.Calls
import Dataspace.Proofs.Commands
import Dataspace.Proofs.EngineCalls

namespace Dataspace

/-- What a command asked of the connector or of the container engine, and the answer. -/
inductive Contact where
  | request (call : Call)
  | engine (made : MadeCall)

namespace Contact

def call? : Contact → Option Call
  | request call => some call
  | engine _ => none

def made? : Contact → Option MadeCall
  | request _ => none
  | engine made => some made

end Contact

section Keeping

variable {σ η : Type}

/-- The partners whose calls are kept. -/
def Partners.logging (p : Partners σ η) : Partners (σ × List Call) (η × List MadeCall) :=
  ⟨p.client.logging, p.engine.logging, p.now⟩

/-- The desk with these contacts beside the states of the partners. -/
def Desk.keeping (d : Desk σ η) (contacts : List Contact) :
    Desk (σ × List Call) (η × List MadeCall) where
  link := (d.link, contacts.filterMap Contact.call?)
  engine := (d.engine, contacts.filterMap Contact.made?)
  disk := d.disk
  printed := d.printed

theorem Desk.keeping_requests (d : Desk σ η) (contacts : List Contact) (calls : List Call) :
    d.keeping (contacts ++ calls.map .request) =
      { d.keeping contacts with link := (d.link, contacts.filterMap Contact.call? ++ calls) } := by
  have hcalls : (calls.map Contact.request).filterMap Contact.call? = calls := by
    rw [List.filterMap_map]
    exact List.filterMap_some
  have hmade : (calls.map Contact.request).filterMap Contact.made? = [] := by
    rw [List.filterMap_map]
    exact List.filterMap_eq_nil_iff.mpr fun _ _ => rfl
  simp only [keeping, List.filterMap_append, hcalls, hmade, List.append_nil]

theorem Desk.keeping_engine (d : Desk σ η) (contacts : List Contact) (made : List MadeCall) :
    d.keeping (contacts ++ made.map .engine) =
      { d.keeping contacts with engine := (d.engine, contacts.filterMap Contact.made? ++ made) } := by
  have hcalls : (made.map Contact.engine).filterMap Contact.call? = [] := by
    rw [List.filterMap_map]
    exact List.filterMap_eq_nil_iff.mpr fun _ _ => rfl
  have hmade : (made.map Contact.engine).filterMap Contact.made? = made := by
    rw [List.filterMap_map]
    exact List.filterMap_some
  simp only [keeping, List.filterMap_append, hcalls, hmade, List.append_nil]

end Keeping

/-! ## Parts of a command -/

namespace Command

variable {σ η α : Type} {d : Desk σ η} {t : σ} {calls : List Call}

theorem noted_during {x : Command σ η α} {y : Command (σ × List Call) (η × List MadeCall) α}
    {result : Except CommandError α} {d' : Desk σ η} {contacts : List Contact}
    (h : Noted Desk.keeping x y d result d' contacts) (activity : Activity) :
    Noted Desk.keeping (during activity x) (during activity y) d
      (result.mapError fun e => { e with during := activity :: e.during }) d' contacts := by
  cases result with
  | ok a => exact ⟨during_of_ok h.plain _, fun log => during_of_ok (h.noted log) _⟩
  | error e => exact ⟨during_of_error h.plain _, fun log => during_of_error (h.noted log) _⟩

theorem noted_exchange {x : Exchange σ α} {y : Exchange (σ × List Call) α}
    {result : Except ConnectorError α} (h : Noted Prod.mk x y d.link result t calls) :
    Noted Desk.keeping (exchange x) (exchange y) d
      (result.mapError fun e => ⟨[], .connector e⟩) { d with link := t }
      (calls.map .request) := by
  constructor
  · cases result with
    | ok a => exact exchange_of_ok h.plain
    | error e => exact exchange_of_error h.plain
  · intro log
    rw [Desk.keeping_requests]
    cases result with
    | ok a => exact exchange_of_ok (h.noted _)
    | error e => exact exchange_of_error (h.noted _)

theorem noted_exchangeStoring {x : Exchange (σ × Disk) α}
    {y : Exchange ((σ × List Call) × Disk) α} {result : Except ConnectorError α} {disk : Disk}
    (h : Noted (fun s log => ((s.1, log), s.2)) x y (d.link, d.disk) result (t, disk) calls) :
    Noted Desk.keeping (exchangeStoring x) (exchangeStoring y) d
      (result.mapError fun e => ⟨[], .connector e⟩) { d with link := t, disk := disk }
      (calls.map .request) := by
  constructor
  · unfold exchangeStoring
    rw [h.plain]
    cases result <;> rfl
  · intro log
    rw [Desk.keeping_requests]
    unfold exchangeStoring
    have hlog : y ((d.keeping log).link, (d.keeping log).disk) =
        (result, (t, log.filterMap Contact.call? ++ calls), disk) := h.noted _
    rw [hlog]
    cases result <;> rfl

theorem noted_notification {x : ExceptT RegistryError (StateM σ) α}
    {y : ExceptT RegistryError (StateM (σ × List Call)) α} {result : Except RegistryError α}
    (h : Noted Prod.mk x y d.link result t calls) :
    Noted Desk.keeping (notification x) (notification y) d
      (result.mapError fun e => ⟨[], .registry e⟩) { d with link := t }
      (calls.map .request) := by
  constructor
  · unfold notification
    rw [h.plain]
    cases result <;> rfl
  · intro log
    rw [Desk.keeping_requests]
    unfold notification
    have hlog : y (d.keeping log).link = (result, t, log.filterMap Contact.call? ++ calls) :=
      h.noted _
    rw [hlog]
    cases result <;> rfl

theorem noted_engineRun {x : EngineRun η α} {y : EngineRun (η × List MadeCall) α}
    {result : Except RegistryError α} {s : η} {made : List MadeCall}
    (h : Noted Prod.mk x y d.engine result s made) :
    Noted Desk.keeping (engineRun x) (engineRun y) d
      (result.mapError fun e => ⟨[], .registry e⟩) { d with engine := s } (made.map .engine) := by
  constructor
  · unfold engineRun
    rw [h.plain]
    cases result <;> rfl
  · intro log
    rw [Desk.keeping_engine]
    unfold engineRun
    have hlog : y (d.keeping log).engine = (result, s, log.filterMap Contact.made? ++ made) :=
      h.noted _
    rw [hlog]
    cases result <;> rfl

theorem noted_observing {x : StateM σ α} {y : StateM (σ × List Call) α} {a : α}
    (hx : x d.link = (a, t)) (hy : ∀ log, y (d.link, log) = (a, t, log ++ calls)) :
    Noted Desk.keeping (observing x) (observing y) d (.ok a) { d with link := t }
      (calls.map .request) := by
  constructor
  · unfold observing
    rw [hx]
  · intro log
    rw [Desk.keeping_requests]
    unfold observing
    have hlog : y (d.keeping log).link = (a, t, log.filterMap Contact.call? ++ calls) := hy _
    rw [hlog]
    rfl

end Command

/-! ## Exchanges of one request -/

namespace Client

variable {σ : Type}

theorem noted_execute (c : Client σ) (r : Request) (s : σ) :
    ∃ answer t, Noted Prod.mk (c.execute r) (c.logging.execute r) s (accept r answer) t
      [(r, answer)] := by
  rcases hsend : c.transport.send r s with ⟨answer, t⟩
  exact ⟨answer, t, execute_eq hsend, fun log => execute_eq (logging_send hsend log)⟩

end Client

end Dataspace
