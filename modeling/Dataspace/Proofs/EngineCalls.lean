/-
The calls of a container engine.

`Engine.logging` keeps every call with what was answered to it.  A publisher changes only
by calls that succeed, and each of them is one call of the engine; so a run of a publisher
is told from the calls it made.
-/
import Dataspace.Proofs.Noted
import Dataspace.Registry.Publisher

namespace Dataspace

/-- What an engine answers to a call. -/
inductive EngineAnswer where
  | done
  | digest (digest : Option String)
  | listed (images : List String)
  | failed (error : RegistryError)
deriving DecidableEq

/-- A call of an engine and what was answered. -/
abbrev MadeCall := EngineCall × EngineAnswer

namespace EngineAnswer

/-- The answer to a call with this result; `success` is for what a success gives. -/
def ofResult {α : Type} (success : α → EngineAnswer) : Except RegistryError α → EngineAnswer
  | .ok a => success a
  | .error x => failed x

/-- The error of a failure. -/
def error? : EngineAnswer → Option RegistryError
  | failed x => some x
  | _ => none

theorem error?_eq_some_iff {answer : EngineAnswer} {x : RegistryError} :
    answer.error? = some x ↔ answer = failed x := by
  cases answer <;> simp [error?]

end EngineAnswer

namespace Engine

variable {η α : Type}

/-- The run, with the call and its answer kept at the end of the record. -/
def answering (call : EngineCall) (success : α → EngineAnswer) (run : EngineRun η α) :
    EngineRun (η × List MadeCall) α := fun s =>
  let (result, next) := run s.1
  (result, next, s.2 ++ [(call, .ofResult success result)])

/-- The engine that also keeps the calls made and its answers, in order. -/
def logging (e : Engine η) : Engine (η × List MadeCall) where
  login registry username password := answering (.login registry username password)
    (fun _ => .done) (e.login registry username password)
  pull image := answering (.pull image) (fun _ => .done) (e.pull image)
  tag source target := answering (.tag source target) (fun _ => .done) (e.tag source target)
  push reference := answering (.push reference) .digest (e.push reference)
  images := answering .images .listed e.images

end Engine

/-! ## Calls of a publisher -/

namespace Publisher

variable {η α : Type}

/-- The state of a publisher and its engine, with the calls beside that of the engine. -/
def keeping (state : Publisher × η) (made : List MadeCall) : Publisher × η × List MadeCall :=
  (state.1, state.2, made)

/-- One call of the engine.  It succeeds and the publisher changes, or it fails and the publisher
is as it was. -/
theorem calling_cases (run : Publisher → EngineRun η α) (call : Publisher → EngineCall)
    (success : α → EngineAnswer) (change : Publisher → Publisher) (p : Publisher) (s : η) :
    (∃ a t, Noted keeping (calling run change)
      (calling (fun p => Engine.answering (call p) success (run p)) change)
      (p, s) (.ok a) (change p, t) [(call p, success a)]) ∨
    (∃ x t, Noted keeping (calling run change)
      (calling (fun p => Engine.answering (call p) success (run p)) change)
      (p, s) (.error x) (p, t) [(call p, .failed x)]) := by
  rcases hrun : run p s with ⟨result, t⟩
  cases result with
  | ok a =>
      refine .inl ⟨a, t, ?_, ?_⟩
      · simp only [calling, hrun]
      · intro log
        simp only [calling, keeping, Engine.answering, hrun, EngineAnswer.ofResult]
  | error x =>
      refine .inr ⟨x, t, ?_, ?_⟩
      · simp only [calling, hrun]
      · intro log
        simp only [calling, keeping, Engine.answering, hrun, EngineAnswer.ofResult]

/-- A publisher that is logged in pushes by a call of the engine. -/
theorem push_cases {p : Publisher} (h : p.loggedIn = true) (e : Engine η) (s : η) :
    (∃ digest t, Noted keeping (push e) (push e.logging) (p, s) (.ok digest)
      (reaching .pushed p, t) [(.push p.reference.text, .digest digest)]) ∨
    (∃ x t, Noted keeping (push e) (push e.logging) (p, s) (.error x) (p, t)
      [(.push p.reference.text, .failed x)]) := by
  have hplain : push e (p, s) = calling (fun p => e.push p.reference.text) (reaching .pushed)
      (p, s) := if_pos h
  have hnoted : ∀ log, push e.logging (p, s, log) =
      calling (fun p => e.logging.push p.reference.text) (reaching .pushed) (p, s, log) :=
    fun log => if_pos h
  rcases calling_cases (fun p => e.push p.reference.text) (fun p => .push p.reference.text)
    .digest (reaching .pushed) p s with ⟨digest, t, hcall⟩ | ⟨x, t, hcall⟩
  · exact .inl ⟨digest, t, hplain.trans hcall.plain, fun log => (hnoted log).trans (hcall.noted log)⟩
  · exact .inr ⟨x, t, hplain.trans hcall.plain, fun log => (hnoted log).trans (hcall.noted log)⟩

/-- One that is not logged in makes no call for a push. -/
theorem push_refused {p : Publisher} (h : p.loggedIn = false) (e : Engine η) (s : η) :
    Noted keeping (push e) (push e.logging) (p, s)
      (.error (.loginRequired p.reference.registry)) (p, s) [] :=
  have hnot : ¬ p.loggedIn = true := by
    rw [h]
    exact Bool.false_ne_true
  .quiet (if_neg hnot) fun _ => if_neg hnot

end Publisher

/-! ## Calls one after the other -/

namespace MadeCall

/-- The error of a call that failed. -/
def error? (m : MadeCall) : Option RegistryError :=
  m.2.error?

/-- Calls that were all made with success. -/
theorem inTurn_zip {calls : List EngineCall} {answers : List EngineAnswer}
    (hlength : answers.length = calls.length) (hanswers : ∀ answer ∈ answers, answer.error? = none) :
    InTurn Prod.fst error? calls (calls.zip answers) none := by
  induction calls generalizing answers with
  | nil =>
      rw [List.zip_nil_left]
      exact .all
  | cons call calls ih =>
      cases answers with
      | nil => cases hlength
      | cons answer answers =>
          obtain ⟨hanswer, hrest⟩ := List.forall_mem_cons.mp hanswers
          rw [List.zip_cons_cons]
          exact .next (v := (call, answer)) hanswer (ih (Nat.succ.inj hlength) hrest)

end MadeCall

end Dataspace
