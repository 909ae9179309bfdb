/-
Running plans.

The steps are taken in order.  A step is done, failed or skipped: when failing
fast, every step after a failure is skipped; when keeping going, exactly the
steps whose inputs are missing.  The report has an outcome for every step and
the handle of every slot whose create step was done.
-/
import Dataspace.Exchange.Client
import Dataspace.Plan.Basic

namespace Dataspace

/-- What to do after a failure. -/
inductive FailurePolicy where
  | failFast
  | keepGoing
deriving DecidableEq

/-- What became of a step. -/
inductive StepStatus where
  | done
  | failed (error : ConnectorError)
  | skipped
deriving DecidableEq

/-- A step's label and what became of it. -/
structure StepOutcome where
  label : String
  status : StepStatus
deriving DecidableEq

/-- How far a run has come: the handles so far, and whether a step has failed. -/
structure Progress where
  handles : List (Option Handle)
  failed : Bool
deriving DecidableEq

namespace Progress

/-- Before the first step. -/
def start (slots : Nat) : Progress :=
  ⟨List.replicate slots none, false⟩

/-- The handle in a slot, once it is there. -/
def handle? (p : Progress) (slot : Nat) : Option Handle :=
  p.handles[slot]?.join

/-- The progress after a create step was done. -/
def withHandle (p : Progress) (slot : Nat) (handle : Handle) : Progress :=
  { p with handles := p.handles.set slot (some handle) }

end Progress

/-- The result of a run. -/
structure Report where
  plan : Nat
  handles : List (Option Handle)
  outcomes : List StepOutcome
deriving DecidableEq

/-! ## One step -/

namespace Step

variable {σ : Type}

/-- Whether the step is passed over. -/
def isSkipped (policy : FailurePolicy) (p : Progress) (step : Step) : Bool :=
  match policy with
  | .failFast => p.failed
  | .keepGoing => ! step.reads.all fun slot => (p.handle? slot).isSome

/-- Takes the step. -/
def attempt (c : Client σ) (p : Progress) (step : Step) : Exchange σ Progress :=
  match step.action with
  | .create kind fields output => do
    let handle ← c.create kind fields
    return p.withHandle output handle
  | .link parent child =>
    match p.handle? parent, p.handle? child with
    | some parent, some child => do
      c.link parent child
      return p
    | _, _ => throw (.invalidPlan (.inputsMissing step.label))

/-- Passes over the step or takes it. -/
def run (c : Client σ) (policy : FailurePolicy) (step : Step) (p : Progress) (s : σ) :
    StepStatus × Progress × σ :=
  if step.isSkipped policy p then (.skipped, p, s)
  else match step.attempt c p s with
    | (.ok next, s) => (.done, next, s)
    | (.error e, s) => (.failed e, { p with failed := true }, s)

end Step

/-! ## All steps -/

namespace Plan

variable {σ : Type}

/-- Runs steps in order. -/
def runSteps (c : Client σ) (policy : FailurePolicy) :
    List Step → Progress → σ → List StepOutcome × Progress × σ
  | [], p, s => ([], p, s)
  | step :: rest, p, s =>
    let (status, p, s) := step.run c policy p s
    let (outcomes, p, s) := runSteps c policy rest p s
    (⟨step.label, status⟩ :: outcomes, p, s)

/-- Runs every step of the plan. -/
def run (plan : Plan) (c : Client σ) (policy : FailurePolicy) : StateM σ Report := fun s =>
  let (outcomes, p, s) := runSteps c policy plan.steps (.start plan.slots.length) s
  (⟨plan.id, p.handles, outcomes⟩, s)

end Plan

/-! ## Reports -/

namespace StepOutcome

def isDone (o : StepOutcome) : Bool :=
  o.status == .done

/-- The error of a failed step. -/
def error? (o : StepOutcome) : Option ConnectorError :=
  match o.status with
  | .failed e => some e
  | _ => none

end StepOutcome

namespace Report

/-- Every step was done. -/
def isComplete (r : Report) : Bool :=
  r.outcomes.all StepOutcome.isDone

/-- The failed steps, in order. -/
def failures (r : Report) : List StepOutcome :=
  r.outcomes.filter fun o => o.error?.isSome

/-- The number of skipped steps. -/
def skipped (r : Report) : Nat :=
  r.outcomes.countP fun o => o.status == .skipped

/-- The report if it is complete, otherwise the error of the first failed step. -/
def result (r : Report) : Except ConnectorError Report :=
  if r.isComplete then .ok r
  else match r.outcomes.findSome? StepOutcome.error? with
    | some e => .error e
    | none => .error (.invalidPlan .incomplete)

/-- The handle in a slot of the plan that was run. -/
def handle? (r : Report) (slot : Slot) : Option Handle :=
  if slot.plan = r.plan then r.handles[slot.index]?.join else none

/-- The handle in a slot, if it is of the given kind. -/
def handleOfKind? (r : Report) (kind : EntityKind) (slot : Slot) : Option Handle :=
  (r.handle? slot).filter fun h => h.kind = kind

end Report

end Dataspace
