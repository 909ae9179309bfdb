/-
When commands succeed.

A command is made of parts, and where what it talks to is known, each part has a
condition of its own under which it succeeds.  `SucceedsIff` says of a part when
that is and what it then comes to.  The condition for parts one after the other is
that of all of them, and each rule here is for one way to put parts together.
-/
import Dataspace.Command.Provision
import Dataspace.Proofs.Commands

namespace Dataspace

/-- From this desk the part succeeds if and only if `sound`; `ends` says what it then gives and
how it leaves the desk. -/
structure SucceedsIff {σ η α : Type} (x : Command σ η α) (d : Desk σ η) (sound : Prop)
    (ends : α → Desk σ η → Prop) : Prop where
  isOk_iff : (x d).1.isOk = true ↔ sound
  ends : ∀ a d', x d = (.ok a, d') → ends a d'

namespace SucceedsIff

variable {σ η α β : Type} {x : Command σ η α} {f : α → Command σ η β} {d m : Desk σ η}
  {sound sound' rest : Prop} {gives gives' : α → Desk σ η → Prop} {ends : β → Desk σ η → Prop}

theorem of_ok {a : α} (h : x d = (.ok a, m)) (hgives : gives a m) : SucceedsIff x d True gives where
  isOk_iff := by
    rw [h]
    exact iff_of_true rfl trivial
  ends := fun b u hb => by
    cases h.symm.trans hb
    exact hgives

theorem of_error {e : CommandError} (h : x d = (.error e, m)) : SucceedsIff x d False gives where
  isOk_iff := by
    rw [h]
    exact iff_of_false Bool.false_ne_true id
  ends := fun b u hb => nomatch h.symm.trans hb

theorem congr (h : SucceedsIff x d sound gives) (hsound : sound ↔ sound')
    (hgives : ∀ a d', gives a d' → gives' a d') : SucceedsIff x d sound' gives' where
  isOk_iff := h.isOk_iff.trans hsound
  ends := fun a u ha => hgives a u (h.ends a u ha)

/-- One part after the other: both have to succeed, the second after whatever the first gives. -/
theorem bind (hx : SucceedsIff x d sound gives)
    (hf : ∀ a m, gives a m → SucceedsIff (f a) m rest ends) :
    SucceedsIff (x >>= f) d (sound ∧ rest) ends := by
  rcases hpart : x d with ⟨result, m⟩
  have hok := hx.isOk_iff
  rw [hpart] at hok
  cases result with
  | error e =>
      have hnot : ¬ sound := fun h => Bool.false_ne_true (hok.mpr h)
      exact (of_error (bind_error hpart)).congr (iff_of_false id fun h => hnot h.1) fun _ _ => id
  | ok a =>
      have hrest := hf a m (hx.ends a m hpart)
      have heq : (x >>= f) d = f a m := bind_ok hpart
      constructor
      · rw [heq, hrest.isOk_iff]
        exact (and_iff_right (hok.mp rfl)).symm
      · rw [heq]
        exact hrest.ends

/-- A part, and what then succeeds in any case. -/
theorem bind_sure (hx : SucceedsIff x d sound gives)
    (hf : ∀ a m, gives a m → SucceedsIff (f a) m True ends) : SucceedsIff (x >>= f) d sound ends :=
  (hx.bind hf).congr (and_iff_left trivial) fun _ _ => id

/-- A part that succeeds in any case, and what follows it. -/
theorem after {a : α} (hx : x d = (.ok a, m)) (hf : SucceedsIff (f a) m rest ends) :
    SucceedsIff (x >>= f) d rest ends where
  isOk_iff := by
    rw [bind_ok hx]
    exact hf.isOk_iff
  ends := by
    rw [bind_ok hx]
    exact hf.ends

theorem during (h : SucceedsIff x d sound gives) (activity : Activity) :
    SucceedsIff (Command.during activity x) d sound gives := by
  rcases hpart : x d with ⟨result, m⟩
  have hok := h.isOk_iff
  rw [hpart] at hok
  cases result with
  | ok a =>
      exact (of_ok (Command.during_of_ok hpart _) (h.ends a m hpart)).congr
        (iff_of_true trivial (hok.mp rfl)) fun _ _ => id
  | error e =>
      exact (of_error (Command.during_of_error hpart _)).congr
        (iff_of_false id fun h => Bool.false_ne_true (hok.mpr h)) fun _ _ => id

/-- The result of what a part carries out decides. -/
theorem of_mapError {ε : Type} {g : ε → CommandError} {result : Except ε α}
    (h : x d = (result.mapError g, m)) (hsound : result.isOk = true ↔ sound) :
    SucceedsIff x d sound fun a u => result = .ok a ∧ u = m := by
  cases result with
  | ok a => exact (of_ok h ⟨rfl, rfl⟩).congr (iff_of_true trivial (hsound.mp rfl)) fun _ _ => id
  | error e =>
      exact (of_error h).congr (iff_of_false id fun h => Bool.false_ne_true (hsound.mpr h))
        fun _ _ => id

theorem ofExcept {ε : Type} (toFault : ε → CommandFault) {result : Except ε α}
    (hsound : result.isOk = true ↔ sound) (d : Desk σ η) :
    SucceedsIff (Command.ofExcept toFault result) d sound fun a m => result = .ok a ∧ m = d := by
  refine of_mapError (g := fun e => ⟨[], toFault e⟩) ?_ hsound
  cases result <;> rfl

theorem engineRun {y : EngineRun η α} {result : Except RegistryError α} {s : η}
    (h : y d.engine = (result, s)) (hsound : result.isOk = true ↔ sound) :
    SucceedsIff (Command.engineRun y) d sound
      fun a m => result = .ok a ∧ m = { d with engine := s } := by
  refine of_mapError (g := fun e => ⟨[], .registry e⟩) ?_ hsound
  unfold Command.engineRun
  rw [h]
  cases result <;> rfl

theorem notification {y : ExceptT RegistryError (StateM σ) α} {result : Except RegistryError α}
    {t : σ} (h : y d.link = (result, t)) (hsound : result.isOk = true ↔ sound) :
    SucceedsIff (Command.notification y) d sound
      fun a m => result = .ok a ∧ m = { d with link := t } := by
  refine of_mapError (g := fun e => ⟨[], .registry e⟩) ?_ hsound
  unfold Command.notification
  rw [h]
  cases result <;> rfl

/-- A follow-up decides only if it is asked for. -/
theorem requested (h : SucceedsIff x d sound gives) (wanted : Bool) :
    SucceedsIff (Command.requested wanted x) d (wanted = true → sound)
      fun _ m => if wanted = true then ∃ a, gives a m else m = d := by
  cases wanted with
  | false => exact (of_ok rfl (by simp)).congr (by simp) fun _ _ => id
  | true =>
      have hpart : SucceedsIff (Command.requested true x) d sound fun _ m => ∃ a, gives a m :=
        h.bind_sure fun a m ha => of_ok rfl ⟨a, ha⟩
      exact hpart.congr (by simp) fun _ _ hm => by simpa using hm

end SucceedsIff

end Dataspace
