/-
What a client makes of the answer to a create request.

One request is sent, and its answer alone decides.  A status that is no success is the
error.  A success has to say where the entity is: its location is trimmed, passed over
if nothing is left, trimmed once more and read as a handle, and the handle has to be of
the kind that was asked for.  All of that comes to one condition on the location, that
it is spelled as a handle of this kind; where it does not hold, the response is not as
expected.
-/
import Dataspace.Proofs.Calls
import Dataspace.Proofs.Spelling

namespace Dataspace

open Text

theorem Text.filled?_of_trim_ne {s : String} (hfilled : trim s ≠ "") :
    filled? s = some (trim s) := by
  simp [filled?, hfilled]

theorem Response.isSuccess_iff {response : Response} :
    response.isSuccess = true ↔ 200 ≤ response.status ∧ response.status < 300 := by
  simp [isSuccess]

theorem Handle.ofKind_of_kind {kind : EntityKind} {h : Handle} (hkind : h.kind = kind) :
    ofKind kind h = .ok h :=
  if_pos hkind

namespace Client

/-- An answer is passed on if it is a success. -/
theorem accept_eq_ok_iff {r : Request} {answer : Except Outage Response}
    {response : Response} :
    accept r answer = .ok response ↔ answer = .ok response ∧ response.isSuccess = true := by
  cases answer with
  | error outage => simp [accept]
  | ok found =>
      by_cases hsuccess : found.isSuccess = true
      · simp only [accept, hsuccess, if_true, Except.ok.injEq]
        exact ⟨fun h => ⟨h, h ▸ hsuccess⟩, fun h => h.1⟩
      · simp only [accept, hsuccess, Bool.false_eq_true, if_false, Except.ok.injEq, reduceCtorEq,
          false_iff]
        rintro ⟨rfl, h⟩
        exact hsuccess h

theorem linkResult_eq_ok_iff {parent child : Handle} {answer : Except Outage Response} :
    linkResult parent child answer = .ok () ↔
      ∃ response, answer = .ok response ∧ response.isSuccess = true := by
  simp only [← accept_eq_ok_iff (r := linkRequest parent child), linkResult]
  cases accept (linkRequest parent child) answer with
  | error e => simp
  | ok response => simp

variable {base url : String} {kind : EntityKind} {fields : Json} {response : Response} {h : Handle}

/-! ## The location of what was created -/

/-- The location is read as the handle that it is, if it is one. -/
theorem locationHandle_eq_ok_iff :
    locationHandle url response = .ok h ↔
      ∃ location, response.location = some location ∧ Handle.parse location = .ok h := by
  cases hlocation : response.location with
  | none => simp [locationHandle, hlocation]
  | some location =>
      have hone : (∃ l, some location = some l ∧ Handle.parse l = .ok h) ↔
          Handle.parse (trim location) = .ok h := by
        rw [Handle.parse_trim_eq_ok_iff]
        simp
      rw [hone]
      by_cases hblank : trim location = ""
      · -- a blank location is passed over, and is no handle either
        have hnone : filled? location = none := by simp [filled?, hblank]
        have hempty : ∀ handle, Handle.parse "" ≠ .ok handle := by
          intro handle hparse
          have htext : Handle.stripped "" = "" := by decide +kernel
          obtain ⟨huri, -⟩ := Handle.parse_eq_ok_iff.mp hparse
          exact (Handle.filled_of_parse hparse).1 (huri.trans htext)
        rw [hblank]
        simp [locationHandle, hlocation, hnone, hempty]
      · simp only [locationHandle, hlocation, Option.bind_some, filled?_of_trim_ne hblank]
        cases Handle.parse (trim location) <;> simp

/-- Any other location is a fault of the response. -/
theorem locationHandle_cases (url : String) (response : Response) :
    (∃ h, locationHandle url response = .ok h) ∨
      ∃ fault, locationHandle url response = .error (.responseFormat url fault) := by
  unfold locationHandle
  split
  · exact Or.inr ⟨_, rfl⟩
  · split
    · exact Or.inl ⟨_, rfl⟩
    · exact Or.inr ⟨_, rfl⟩

/-! ## The handle that an answer gives -/

theorem createdHandle_of_isSuccess (hsuccess : response.isSuccess = true) :
    createdHandle base kind fields (.ok response)
      = (locationHandle (base ++ kind.createPath) response).bind fun handle =>
          if handle.kind = kind then .ok handle
          else .error (.responseFormat (base ++ kind.createPath)
            (.wrongLocation kind handle.uri)) := by
  have hposted : postedHandle (base ++ kind.createPath) fields (.ok response)
      = locationHandle (base ++ kind.createPath) response := by
    rw [postedHandle, accept_of_isSuccess hsuccess]
    rfl
  rw [createdHandle, hposted]
  cases locationHandle (base ++ kind.createPath) response <;> rfl

/-- A refusal is handed on with its status. -/
theorem createdHandle_of_not_isSuccess (hfail : response.isSuccess = false) :
    createdHandle base kind fields (.ok response)
      = .error (.request (base ++ kind.createPath) response.status response.message?
          response.text) := by
  have haccept : accept (.post (base ++ kind.createPath) (some fields)) (.ok response)
      = .error (.request (base ++ kind.createPath) response.status response.message?
          response.text) :=
    if_neg (Bool.eq_false_iff.mp hfail)
  rw [createdHandle, postedHandle, haccept]
  rfl

/-- An answer gives a handle if and only if it is a success whose location is a handle of the
kind. -/
theorem createdHandle_eq_ok_iff :
    createdHandle base kind fields (.ok response) = .ok h ↔ response.isSuccess = true ∧
      h.kind = kind ∧
      ∃ location, response.location = some location ∧ Handle.parse location = .ok h := by
  cases hsuccess : response.isSuccess with
  | false =>
      rw [createdHandle_of_not_isSuccess hsuccess]
      exact iff_of_false (fun hok => nomatch hok) fun hall => nomatch hall.1
  | true =>
      rw [createdHandle_of_isSuccess hsuccess,
        ← @locationHandle_eq_ok_iff (base ++ kind.createPath) response h]
      cases locationHandle (base ++ kind.createPath) response with
      | error e => exact iff_of_false (fun hok => nomatch hok) fun hall => nomatch hall.2.2
      | ok handle =>
          show (if handle.kind = kind then _ else _) = _ ↔ _
          by_cases hkind : handle.kind = kind
          · rw [if_pos hkind]
            constructor
            · rintro ⟨⟩
              exact ⟨rfl, hkind, rfl⟩
            · exact fun hall => hall.2.2
          · rw [if_neg hkind]
            refine iff_of_false (fun hok => nomatch hok) ?_
            rintro ⟨-, hother, ⟨⟩⟩
            exact hkind hother

/-- A handle that an answer gives was read from a location. -/
theorem parse_of_createdHandle {answer : Except Outage Response}
    (hcreated : createdHandle base kind fields answer = .ok h) :
    ∃ location, Handle.parse location = .ok h := by
  cases answer with
  | error outage => cases hcreated
  | ok response =>
      obtain ⟨-, -, location, -, hparse⟩ := createdHandle_eq_ok_iff.mp hcreated
      exact ⟨location, hparse⟩

theorem filled_of_createdHandle {answer : Except Outage Response}
    (hcreated : createdHandle base kind fields answer = .ok h) : h.uri ≠ "" ∧ h.id ≠ "" := by
  obtain ⟨location, hparse⟩ := parse_of_createdHandle hcreated
  exact Handle.filled_of_parse hparse

/-- A success that gives no handle is not as expected. -/
theorem createdHandle_of_unusable (hsuccess : response.isSuccess = true)
    (hnone : ∀ h, createdHandle base kind fields (.ok response) ≠ .ok h) :
    ∃ fault, createdHandle base kind fields (.ok response)
      = .error (.responseFormat (base ++ kind.createPath) fault) := by
  rw [createdHandle_of_isSuccess hsuccess] at hnone ⊢
  rcases locationHandle_cases (base ++ kind.createPath) response with
    ⟨handle, hlocated⟩ | ⟨fault, hlocated⟩
  · rw [hlocated] at hnone ⊢
    by_cases hkind : handle.kind = kind
    · exact absurd (if_pos hkind) (hnone handle)
    · exact ⟨_, if_neg hkind⟩
  · rw [hlocated]
    exact ⟨fault, rfl⟩

end Client

/-! ## Every answer -/

/-- To create an entity a client posts its fields once to the collection of its kind, whatever
machine answers.  It is given a handle if and only if the status is a success and the location,
without the blanks around it and then the slashes at its end, is spelled as a handle of that kind;
the handle is that text, with its id, so it is of the kind it is wanted for.  Every other success is
a response that is not as expected, every other status is the error, and no answer makes an invalid
handle. -/
theorem create_by_answer {σ : Type} (c : Client σ) (kind : EntityKind) (fields : Json) (s : σ) :
    let url := c.baseUrl ++ "/api/" ++ kind.collection
    let request := Request.post url (some fields)
    ∃ answer next result,
      c.transport.send request s = (answer, next) ∧
      c.create kind fields s = (result, next) ∧
      c.logging.create kind fields (s, []) = (result, next, [(request, answer)]) ∧
      (∀ outage, answer = .error outage → result = .error (.transport url outage.detail)) ∧
      ∀ response, answer = .ok response →
        (∀ h, result = .ok h ↔ (200 ≤ response.status ∧ response.status < 300) ∧
          ∃ location front, response.location = some location ∧
            h.uri = Handle.stripped location ∧ h.kind = kind ∧
            Handle.Spelled h.uri front kind h.id) ∧
        (∀ h, result = .ok h → h.ofKind kind = .ok h) ∧
        (200 ≤ response.status ∧ response.status < 300 → (∀ h, result ≠ .ok h) →
          ∃ fault, result = .error (.responseFormat url fault)) ∧
        (¬ (200 ≤ response.status ∧ response.status < 300) →
          result = .error (.request url response.status response.message? response.text)) ∧
        ∀ e, result ≠ .error (.invalidHandle e) := by
  intro url request
  have hurl : c.baseUrl ++ kind.createPath = url := by
    rw [EntityKind.createPath, ← String.append_assoc]
  have hrequest : Client.createRequest c.baseUrl kind fields = request :=
    congrArg (Request.post · (some fields)) hurl
  rcases hsend : c.transport.send request s with ⟨answer, next⟩
  have hsend' : c.transport.send (Client.createRequest c.baseUrl kind fields) s = (answer, next) :=
    hrequest ▸ hsend
  have hlogged := Client.logging_create hsend' []
  rw [hrequest] at hlogged
  refine ⟨answer, next, _, rfl, Client.create_eq hsend', hlogged, ?_, ?_⟩
  · rintro outage rfl
    rw [← hurl]
    rfl
  · rintro response rfl
    rw [← Response.isSuccess_iff, ← hurl]
    refine ⟨?_, ?_, Client.createdHandle_of_unusable, ?_, ?_⟩
    · intro h
      rw [Client.createdHandle_eq_ok_iff]
      refine and_congr_right fun _ => ?_
      constructor
      · rintro ⟨rfl, location, hlocation, hparse⟩
        obtain ⟨huri, front, hspelled⟩ := Handle.parse_eq_ok_iff.mp hparse
        exact ⟨location, front, hlocation, huri, rfl, huri ▸ hspelled⟩
      · rintro ⟨location, front, hlocation, huri, rfl, hspelled⟩
        exact ⟨rfl, location, hlocation,
          Handle.parse_eq_ok_iff.mpr ⟨huri, front, huri ▸ hspelled⟩⟩
    · intro h hresult
      exact Handle.ofKind_of_kind (Client.kind_of_createdHandle hresult)
    · intro hfail
      exact Client.createdHandle_of_not_isSuccess (Bool.eq_false_iff.mpr hfail)
    · intro e hresult
      cases hsuccess : response.isSuccess with
      | true =>
          obtain ⟨fault, hfault⟩ := Client.createdHandle_of_unusable hsuccess fun h hok =>
            nomatch hok.symm.trans hresult
          cases hfault.symm.trans hresult
      | false => cases (Client.createdHandle_of_not_isSuccess hsuccess).symm.trans hresult

example : (Client.createdHandle "https://c" .rule (.obj [])
    (.ok ⟨204, some "\u3000/api/rules/7/ ", []⟩)).toOption = some ⟨"/api/rules/7", .rule, "7"⟩ := by
  decide +kernel

end Dataspace
