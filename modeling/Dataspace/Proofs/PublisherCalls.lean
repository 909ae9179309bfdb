/-
A publisher under any sequence of calls.

Pulls, tags, logins and pushes may be asked of a publisher in any order and as often as one
likes, and each may fail.  `PublisherTurn` says once what a call can come to: a push without
a login is refused, and any other call is one call of the engine, after which the publisher
has changed if it succeeded and not otherwise.  What a publisher knows after any sequence of
calls is then read off the calls that succeeded.
-/
import Dataspace.Proofs.Publishing

namespace Dataspace

/-- A call of a publisher. -/
inductive PublisherCall where
  | pull
  | tag
  | login
  | push
deriving DecidableEq

namespace PublisherCall

/-- The call of the engine that a publisher makes for it. -/
def engineCall (p : Publisher) : PublisherCall → EngineCall
  | pull => .pull p.source
  | tag => .tag p.source p.reference.text
  | login => .login p.reference.registry p.username p.password
  | push => .push p.reference.text

/-- What the engine answers to it with success. -/
def success : PublisherCall → Option String → EngineAnswer
  | push, digest => .digest digest
  | _, _ => .done

/-- The stage that is reached by it. -/
def stage? : PublisherCall → Option PublishStage
  | pull => some .pulled
  | tag => some .tagged
  | login => none
  | push => some .pushed

/-- The publisher after it succeeded. -/
def change (call : PublisherCall) (p : Publisher) : Publisher :=
  { p with stage := call.stage?.or p.stage, loggedIn := call == login || p.loggedIn }

end PublisherCall

/-- A call that was made of a publisher: what it gave, the calls of the engine that were made for
it, and the publisher after it. -/
structure PublisherVisit where
  call : PublisherCall
  result : Except RegistryError (Option String)
  made : List MadeCall
  left : Publisher

namespace PublisherVisit

/-- What the caller sees. -/
def seen (v : PublisherVisit) : Except RegistryError (Option String) × Publisher :=
  (v.result, v.left)

/-- The stage reached by the call, if it succeeded. -/
def reached? (v : PublisherVisit) : Option PublishStage :=
  if v.result.isOk then v.call.stage? else none

/-- A login that succeeded. -/
def logsIn (v : PublisherVisit) : Bool :=
  v.call == .login && v.result.isOk

end PublisherVisit

namespace Publisher

variable {η : Type}

/-- The call; only a push gives a digest. -/
def perform (e : Engine η) : PublisherCall → Publishing η (Option String)
  | .pull => do
    pull e
    return none
  | .tag => do
    tag e
    return none
  | .login => do
    login e
    return none
  | .push => push e

/-- The calls one after the other, with what each gives and the publisher after it. -/
def performAll (e : Engine η) : List PublisherCall → Publisher × η →
    List (Except RegistryError (Option String) × Publisher) × Publisher × η
  | [], state => ([], state)
  | call :: rest, state =>
    let (result, state) := perform e call state
    let (seen, last) := performAll e rest state
    ((result, state.1) :: seen, last)

/-- The publisher after these visits. -/
def after (p : Publisher) : List PublisherVisit → Publisher
  | [] => p
  | v :: rest => v.left.after rest

end Publisher

/-! ## One call -/

/-- What a call of a publisher can come to. -/
inductive PublisherTurn (p : Publisher) : PublisherVisit → Prop
  | refused : p.loggedIn = false →
      PublisherTurn p ⟨.push, .error (.loginRequired p.reference.registry), [], p⟩
  | failed (call : PublisherCall) (x : RegistryError) : (call = .push → p.loggedIn = true) →
      PublisherTurn p ⟨call, .error x, [(call.engineCall p, .failed x)], p⟩
  | done (call : PublisherCall) (digest : Option String) :
      (call = .push → p.loggedIn = true) →
      PublisherTurn p
        ⟨call, .ok digest, [(call.engineCall p, call.success digest)], call.change p⟩

/-- One turn after the other. -/
inductive PublisherTurns : Publisher → List PublisherVisit → Prop
  | nil {p : Publisher} : PublisherTurns p []
  | cons {p : Publisher} {v : PublisherVisit} {rest : List PublisherVisit} :
      PublisherTurn p v → PublisherTurns v.left rest → PublisherTurns p (v :: rest)

namespace Publisher

variable {η : Type}

theorem perform_turn (e : Engine η) (call : PublisherCall) (p : Publisher) (s : η) :
    ∃ v t, v.call = call ∧ PublisherTurn p v ∧
      Noted keeping (perform e call) (perform e.logging call) (p, s) v.result (v.left, t)
        v.made := by
  -- what a call of the engine gives is dropped, unless it is a push
  have hcall : ∀ (call : PublisherCall) {x : Publishing η Unit}
      {y : Publishing (η × List MadeCall) Unit}, (call = .push → p.loggedIn = true) →
      ((∃ a t, Noted keeping x y (p, s) (.ok a) (call.change p, t)
          [(call.engineCall p, call.success none)]) ∨
        ∃ error t, Noted keeping x y (p, s) (.error error) (p, t)
          [(call.engineCall p, .failed error)]) →
      ∃ v t, v.call = call ∧ PublisherTurn p v ∧
        Noted keeping (do x; return none) (do y; return none) (p, s) v.result (v.left, t)
          v.made := by
    intro call x y hready hcases
    rcases hcases with ⟨a, t, hnoted⟩ | ⟨error, t, hnoted⟩
    · exact ⟨_, t, rfl, .done call none hready, hnoted.bind_ok (.quiet rfl fun _ => rfl)⟩
    · exact ⟨_, t, rfl, .failed call error hready, hnoted.bind_error⟩
  cases call with
  | pull =>
      exact hcall .pull nofun (calling_cases (fun p => e.pull p.source)
        (PublisherCall.pull.engineCall) (fun _ => .done) (reaching .pulled) p s)
  | tag =>
      exact hcall .tag nofun (calling_cases (fun p => e.tag p.source p.reference.text)
        (PublisherCall.tag.engineCall) (fun _ => .done) (reaching .tagged) p s)
  | login =>
      exact hcall .login nofun (calling_cases
        (fun p => e.login p.reference.registry p.username p.password)
        (PublisherCall.login.engineCall) (fun _ => .done) (fun p => { p with loggedIn := true }) p s)
  | push =>
      cases hlogin : p.loggedIn with
      | false => exact ⟨_, s, rfl, .refused hlogin, push_refused hlogin e s⟩
      | true =>
          rcases push_cases hlogin e s with ⟨digest, t, hnoted⟩ | ⟨error, t, hnoted⟩
          · exact ⟨_, t, rfl, .done .push digest fun _ => hlogin, hnoted⟩
          · exact ⟨_, t, rfl, .failed .push error fun _ => hlogin, hnoted⟩

/-- Calls one after the other are turns one after the other. -/
theorem performAll_turns (e : Engine η) (calls : List PublisherCall) (p : Publisher) (s : η) :
    ∃ visits t, visits.map PublisherVisit.call = calls ∧ PublisherTurns p visits ∧
      performAll e calls (p, s) = (visits.map PublisherVisit.seen, p.after visits, t) ∧
      ∀ log, performAll e.logging calls (p, s, log) = (visits.map PublisherVisit.seen,
        p.after visits, t, log ++ visits.flatMap PublisherVisit.made) := by
  induction calls generalizing p s with
  | nil =>
      refine ⟨[], s, rfl, .nil, rfl, fun log => ?_⟩
      rw [List.flatMap_nil, List.append_nil]
      rfl
  | cons call calls ih =>
      obtain ⟨v, next, rfl, hturn, hnoted⟩ := perform_turn e call p s
      obtain ⟨visits, t, rfl, hturns, hplain, hlogged⟩ := ih v.left next
      refine ⟨v :: visits, t, rfl, .cons hturn hturns, ?_, fun log => ?_⟩
      · simp only [performAll, hnoted.plain, hplain]
        rfl
      · have hlog : perform e.logging v.call (p, s, log) = (v.result, v.left, next, log ++ v.made) :=
          hnoted.noted log
        simp only [performAll, hlog, hlogged, List.flatMap_cons, List.append_assoc]
        rfl

end Publisher

/-! ## What the visits say of the publisher -/

section Visits

variable {p : Publisher} {v : PublisherVisit} {visits before after : List PublisherVisit}

/-- The source, the reference and the credentials stay. -/
theorem PublisherTurn.engineCall_left (h : PublisherTurn p v) (call : PublisherCall) :
    call.engineCall v.left = call.engineCall p := by
  cases h with
  | refused _ | failed _ _ _ => rfl
  | done _ _ _ => cases call <;> rfl

theorem PublisherTurn.stage_left (h : PublisherTurn p v) :
    v.left.stage = v.reached?.or p.stage := by
  cases h with
  | refused _ | failed _ _ _ | done _ _ _ => rfl

theorem PublisherTurn.loggedIn_left (h : PublisherTurn p v) :
    v.left.loggedIn = (v.logsIn || p.loggedIn) := by
  cases h with
  | refused _ => rfl
  | failed call _ _ => simp [PublisherVisit.logsIn, Except.isOk, Except.toBool]
  | done call _ _ => simp [PublisherVisit.logsIn, PublisherCall.change, Except.isOk, Except.toBool]

theorem Publisher.after_concat (p : Publisher) (before : List PublisherVisit)
    (v : PublisherVisit) : p.after (before ++ [v]) = v.left := by
  induction before generalizing p with
  | nil => rfl
  | cons first _ ih => exact ih first.left

theorem PublisherTurns.of_append (h : PublisherTurns p (before ++ after)) :
    PublisherTurns p before := by
  induction before generalizing p with
  | nil => exact .nil
  | cons first rest ih =>
      cases h with
      | cons hturn hrest => exact .cons hturn (ih hrest)

/-- At any point of a sequence the turn is one of the publisher as the visits before left it. -/
theorem PublisherTurns.turn (h : PublisherTurns p (before ++ v :: after)) :
    PublisherTurn (p.after before) v := by
  induction before generalizing p with
  | nil =>
      cases h with
      | cons hturn _ => exact hturn
  | cons first rest ih =>
      cases h with
      | cons _ hrest => exact ih hrest

theorem PublisherTurns.engineCall_after (h : PublisherTurns p visits) (call : PublisherCall) :
    call.engineCall (p.after visits) = call.engineCall p := by
  induction h with
  | nil => rfl
  | cons hturn _ ih => exact ih.trans (hturn.engineCall_left call)

theorem PublisherTurns.stage_after (h : PublisherTurns p visits) :
    (p.after visits).stage = (visits.filterMap PublisherVisit.reached?).getLast?.or p.stage := by
  induction h with
  | nil => rfl
  | @cons p v rest hturn _ ih =>
      show (v.left.after rest).stage = _
      rw [ih, hturn.stage_left, List.filterMap_cons]
      cases v.reached? with
      | none => rfl
      | some stage => simp [List.getLast?_cons, Option.or_some]

theorem PublisherTurns.loggedIn_after (h : PublisherTurns p visits) :
    (p.after visits).loggedIn = (visits.any PublisherVisit.logsIn || p.loggedIn) := by
  induction h with
  | nil => rfl
  | @cons p v rest hturn _ ih =>
      show (v.left.after rest).loggedIn = _
      rw [ih, hturn.loggedIn_left, List.any_cons, Bool.or_left_comm, Bool.or_assoc]

end Visits

/-! ## Any sequence of calls -/

/-- What holds of a call of a publisher that was `p` when it was made, and these visits before. -/
structure PublisherVisit.Proper (p : Publisher) (before : List PublisherVisit)
    (v : PublisherVisit) : Prop where
  push_after_login : ∀ reference answer, (.push reference, answer) ∈ v.made →
    ∃ earlier ∈ before, earlier.logsIn = true
  /-- A push is refused without a call of the engine as long as no login succeeded. -/
  refused : v.call = .push → (∀ earlier ∈ before, earlier.logsIn = false) →
    v.result = .error (.loginRequired p.reference.registry) ∧ v.made = []
  /-- Any other call is one call of the engine, and gives what that gives. -/
  one_call : (v.call = .push → ∃ earlier ∈ before, earlier.logsIn = true) →
    (∃ digest, v.result = .ok digest ∧
      v.made = [(v.call.engineCall p, v.call.success digest)]) ∨
    (∃ x, v.result = .error x ∧ v.made = [(v.call.engineCall p, .failed x)])
  unchanged : ∀ x, v.result = .error x → v.left = p.after before
  /-- The stage is that of the last pull, tag or push that succeeded. -/
  stage : v.left.stage = ((before ++ [v]).filterMap PublisherVisit.reached?).getLast?
  loggedIn : v.left.loggedIn = (before ++ [v]).any PublisherVisit.logsIn

theorem PublisherTurns.proper {p : Publisher} {v : PublisherVisit}
    {before after : List PublisherVisit} (h : PublisherTurns p (before ++ v :: after))
    (hstage : p.stage = none) (hlogin : p.loggedIn = false) : v.Proper p before := by
  have hbefore : PublisherTurns p before := h.of_append
  have hnow : PublisherTurns p (before ++ [v]) := by
    rw [List.append_cons] at h
    exact h.of_append
  have hleft : p.after (before ++ [v]) = v.left := p.after_concat before v
  have hloggedIn : (p.after before).loggedIn = before.any PublisherVisit.logsIn := by
    rw [hbefore.loggedIn_after, hlogin, Bool.or_false]
  have hregistry : (p.after before).reference.registry = p.reference.registry :=
    (EngineCall.login.inj (hbefore.engineCall_after .login)).1
  have hcall := hbefore.engineCall_after v.call
  have hturn := h.turn
  constructor
  case stage => rw [← hleft, hnow.stage_after, hstage, Option.or_none]
  case loggedIn => rw [← hleft, hnow.loggedIn_after, hlogin, Bool.or_false]
  case push_after_login =>
    intro reference answer hmem
    refine List.any_eq_true.mp (hloggedIn.symm.trans ?_)
    cases hturn with
    | refused _ => exact absurd hmem List.not_mem_nil
    | failed call _ hready | done call _ hready =>
        -- the call of the engine is a push only if the publisher was asked to push
        have hpush := (Prod.mk.inj (List.mem_singleton.mp hmem)).1
        cases call with
        | push => exact hready rfl
        | pull | tag | login => cases hpush
  case refused =>
    intro hpush hnone
    have hlocked : (p.after before).loggedIn = false :=
      hloggedIn.trans (List.any_eq_false.mpr fun earlier hmem => by simp [hnone earlier hmem])
    cases hturn with
    | refused _ => exact ⟨by rw [hregistry], rfl⟩
    | failed _ _ hready | done _ _ hready => cases hlocked.symm.trans (hready hpush)
  case one_call =>
    intro hready
    cases hturn with
    | refused hlocked =>
        have hunlocked := hloggedIn.trans (List.any_eq_true.mpr (hready rfl))
        cases hlocked.symm.trans hunlocked
    | failed call x _ => exact .inr ⟨x, rfl, by rw [hcall]⟩
    | done call digest _ => exact .inl ⟨digest, rfl, by rw [hcall]⟩
  case unchanged =>
    intro x hx
    cases hturn with
    | refused _ | failed _ _ _ => rfl
    | done _ _ _ => cases hx

/-- For a publisher as it is made, any sequence of calls, and any engine.  With the calls of the
engine kept the same is seen, and `Proper` says what holds of each call after those before it. -/
theorem publisher_visits {registry : RegistrySettings} {image : ImageSettings}
    {resourceId : String} {p : Publisher}
    (h : Publisher.ofSettings registry image resourceId = .ok p) {η : Type} (e : Engine η)
    (calls : List PublisherCall) (s : η) :
    p.stage = none ∧ p.loggedIn = false ∧
      ∃ visits t, visits.map PublisherVisit.call = calls ∧
        Publisher.performAll e calls (p, s) =
          (visits.map PublisherVisit.seen, p.after visits, t) ∧
        Publisher.performAll e.logging calls (p, s, []) =
          (visits.map PublisherVisit.seen, p.after visits, t,
            visits.flatMap PublisherVisit.made) ∧
        ∀ before v after, visits = before ++ v :: after → v.Proper p before := by
  obtain ⟨hstage, hlogin⟩ := Publisher.fresh_of_ofSettings h
  obtain ⟨visits, t, hcalls, hturns, hplain, hlogged⟩ := Publisher.performAll_turns e calls p s
  refine ⟨hstage, hlogin, visits, t, hcalls, hplain, hlogged [], ?_⟩
  rintro before v after rfl
  exact hturns.proper hstage hlogin

/-- A push before and one after a login, against the engine that does nothing. -/
theorem publisher_visits_login_between_pushes :
    let registry : RegistrySettings := ⟨some "r.example.org", some "apps ", some "u", some "p"⟩
    let image : ImageSettings := ⟨some "app:1", none⟩
    let p : Publisher := ⟨"app:1", ⟨"r.example.org", "apps", "7", none⟩, "u", "p", none, false⟩
    let calls : List PublisherCall := [.push, .login, .push]
    Publisher.ofSettings registry image "7" = .ok p ∧
      ∃ visits t, visits.map PublisherVisit.call = calls ∧
        Publisher.performAll Engine.idle calls (p, ()) =
          (visits.map PublisherVisit.seen, p.after visits, t) ∧
        ∀ before v after, visits = before ++ v :: after → v.Proper p before := by
  intro registry image p calls
  have hsettings : Publisher.ofSettings registry image "7" = .ok p := by
    rfl
  obtain ⟨-, -, visits, t, hcalls, hplain, -, hproper⟩ :=
    publisher_visits hsettings Engine.idle calls ()
  exact ⟨hsettings, visits, t, hcalls, hplain, hproper⟩

end Dataspace
