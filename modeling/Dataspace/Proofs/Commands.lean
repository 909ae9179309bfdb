/-
Commands, taken apart.

A command is made of parts, one after the other; the first that fails ends it.  What
the parts do to the desk is said by one equation each.  `Command.FailsWith` says of
which faults the failures of a command are, and is shown part by part: what comes
after a part may rely on what the part gave.
-/
import Dataspace.Command.Desk
import Dataspace.Proofs.Noted

namespace Dataspace.Command

variable {σ η α β : Type}

/-! ## What parts do to the desk -/

section During

variable {x : Command σ η α} {d d' : Desk σ η}

theorem during_of_ok {a : α} (h : x d = (.ok a, d')) (activity : Activity) :
    during activity x d = (.ok a, d') := by
  simp only [during, h]

theorem during_of_error {e : CommandError} (h : x d = (.error e, d')) (activity : Activity) :
    during activity x d = (.error { e with during := activity :: e.during }, d') := by
  simp only [during, h]

end During

section Exchange

variable {x : Exchange σ α} {d : Desk σ η} {t : σ}

theorem exchange_of_ok {a : α} (h : x d.link = (.ok a, t)) :
    exchange x d = (.ok a, { d with link := t }) := by
  simp only [exchange, h]

theorem exchange_of_error {e : ConnectorError} (h : x d.link = (.error e, t)) :
    exchange x d = (.error ⟨[], .connector e⟩, { d with link := t }) := by
  simp only [exchange, h]

end Exchange

/-! ## The faults of failures -/

/-- The command fails with faults of this sort only. -/
def FailsWith (P : CommandFault → Prop) (x : Command σ η α) : Prop :=
  ∀ d e d', x d = (.error e, d') → P e.fault

/-- The fault is an error of an exchange with the connector. -/
def OfConnector (fault : CommandFault) : Prop :=
  ∃ e, fault = .connector e

namespace FailsWith

variable {P : CommandFault → Prop} {x : Command σ η α}

theorem pure (P : CommandFault → Prop) (a : α) :
    FailsWith P (Pure.pure a : Command σ η α) := by
  intro d e d' h
  cases h

/-- What follows a part has to fail so only for what the part gives. -/
theorem bind {f : α → Command σ η β} (hx : FailsWith P x)
    (hf : ∀ d a d', x d = (.ok a, d') → FailsWith P (f a)) : FailsWith P (x >>= f) := by
  intro d e d' h
  rcases hpart : x d with ⟨result, m⟩
  cases result with
  | ok a =>
      rw [bind_ok hpart] at h
      exact hf d a m hpart m e d' h
  | error e' =>
      rw [bind_error hpart] at h
      cases h
      exact hx d _ _ hpart

theorem during (hx : FailsWith P x) (activity : Activity) :
    FailsWith P (Command.during activity x) := by
  intro d e d' h
  rcases hpart : x d with ⟨result, m⟩
  cases result with
  | ok a =>
      rw [during_of_ok hpart] at h
      cases h
  | error e' =>
      rw [during_of_error hpart] at h
      cases h
      exact hx d e' _ hpart

theorem ofExcept {ε : Type} {toFault : ε → CommandFault} (hfault : ∀ e, P (toFault e))
    (result : Except ε α) : FailsWith P (Command.ofExcept toFault result : Command σ η α) := by
  intro d e d' h
  cases result with
  | ok a => cases h
  | error e' =>
      cases h
      exact hfault e'

theorem exchange (x : Exchange σ α) :
    FailsWith OfConnector (Command.exchange x : Command σ η α) := by
  intro d e d' h
  rcases hx : x d.link with ⟨result, t⟩
  cases result with
  | ok a =>
      rw [exchange_of_ok hx] at h
      cases h
  | error e' =>
      rw [exchange_of_error hx] at h
      cases h
      exact ⟨e', rfl⟩

theorem observing (P : CommandFault → Prop) (x : StateM σ α) :
    FailsWith P (Command.observing x : Command σ η α) := by
  intro d e d' h
  cases h

theorem sayAll (P : CommandFault → Prop) (lines : List String) :
    FailsWith P (Command.sayAll lines : Command σ η Unit) := by
  intro d e d' h
  cases h

end FailsWith

/-! ## What parts give -/

theorem eq_of_ofExcept {ε : Type} {toFault : ε → CommandFault} {result : Except ε α} {a : α}
    {d d' : Desk σ η} (h : ofExcept toFault result d = (.ok a, d')) : result = .ok a ∧ d' = d := by
  cases result with
  | ok b =>
      cases h
      exact ⟨rfl, rfl⟩
  | error e => cases h

theorem ok_of_during {x : Command σ η α} {activity : Activity} {a : α} {d d' : Desk σ η}
    (h : during activity x d = (.ok a, d')) : x d = (.ok a, d') := by
  rcases hx : x d with ⟨result, m⟩
  cases result with
  | ok b =>
      rw [during_of_ok hx] at h
      exact h
  | error e =>
      rw [during_of_error hx] at h
      cases h

end Dataspace.Command
