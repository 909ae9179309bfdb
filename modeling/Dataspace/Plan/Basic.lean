/-
Provisioning plans.

A plan is a list of steps that create and link entities.  A create step yields a
slot, which stands for the handle that running the step will give; links are
declared between slots.  A slot belongs to the plan that issued it, and a link
is taken into a plan only between two of the plan's own slots whose kinds go
together, so no step reads a handle that no earlier step writes.
-/
import Dataspace.Exchange.Error
import Dataspace.Json.Basic

namespace Dataspace

/-- A reference to the handle that a create step of a plan will give. -/
structure Slot where
  plan : Nat
  index : Nat
deriving DecidableEq

/-- What a step does: create an entity and write its handle to a slot, or add the
handle in one slot to the collection of the handle in another. -/
inductive StepAction where
  | create (kind : EntityKind) (fields : Json) (output : Nat)
  | link (parent child : Nat)

/-- A step with its label. -/
structure Step where
  label : String
  action : StepAction

namespace Step

/-- The slots that the step reads. -/
def reads (s : Step) : List Nat :=
  match s.action with
  | .create .. => []
  | .link parent child => [parent, child]

/-- The slot that the step writes. -/
def writes (s : Step) : Option Nat :=
  match s.action with
  | .create _ _ output => some output
  | .link .. => none

end Step

/-- The label and kind of what a slot will hold. -/
structure SlotInfo where
  label : String
  kind : EntityKind
deriving DecidableEq

/-- A plan: its identity, its slots, and its steps in order. -/
structure Plan where
  id : Nat
  slots : List SlotInfo
  steps : List Step

namespace Plan

/-- The plan without steps. -/
def new (id : Nat) : Plan :=
  ⟨id, [], []⟩

/-- The slot that the next create step writes. -/
def nextSlot (p : Plan) : Slot :=
  ⟨p.id, p.slots.length⟩

/-- The plan with a step at its end that creates an entity and writes the next slot. -/
def create (p : Plan) (label : String) (kind : EntityKind) (fields : Json) : Plan :=
  { p with
    slots := p.slots ++ [⟨label, kind⟩]
    steps := p.steps ++ [⟨"create " ++ label, .create kind fields p.slots.length⟩] }

/-- What a slot of the plan will hold. -/
def slotInfo (p : Plan) (slot : Slot) : Except PlanFault SlotInfo :=
  if slot.plan = p.id then
    match p.slots[slot.index]? with
    | some info => .ok info
    | none => .error (.unknownSlot slot.index)
  else .error .foreignSlot

/-- The label of a slot of the plan. -/
def slotLabel? (p : Plan) (slot : Slot) : Option String :=
  (p.slotInfo slot).toOption.map SlotInfo.label

/-- The plan with a step at its end that links two slots. -/
def link (p : Plan) (parent child : Slot) : Except PlanFault Plan := do
  let parentInfo ← p.slotInfo parent
  let childInfo ← p.slotInfo child
  if parentInfo.kind.accepts childInfo.kind then
    return { p with
      steps := p.steps ++
        [⟨s!"link {childInfo.label} to {parentInfo.label}", .link parent.index child.index⟩] }
  else throw (.notAccepted childInfo.kind parentInfo.kind)

end Plan

end Dataspace
