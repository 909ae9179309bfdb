/-
Creating and linking, as one request each.

A client that creates or links sends one request and reads its result off the
answer alone.  The request and the reading are functions of their own here, so a
run can be told from the requests it sends and the answers it gets, whatever
machine answers.  `Transport.logging` keeps both, in order.
-/
import Dataspace.Exchange.Client
import Dataspace.Proofs.Noted

namespace Dataspace

/-- A request and what was answered. -/
abbrev Call := Request × Except Outage Response

/-- The transport that also keeps the requests it was sent and its answers, in order. -/
def Transport.logging {σ : Type} (t : Transport σ) : Transport (σ × List Call) where
  send r s :=
    let (answer, next) := t.send r s.1
    (answer, next, s.2 ++ [(r, answer)])

namespace Client

variable {σ : Type}

/-- The client whose calls are kept. -/
def logging (c : Client σ) : Client (σ × List Call) :=
  ⟨c.baseUrl, c.transport.logging⟩

/-! ## One exchange -/

theorem adapt_eq {α : Type} (x : Exchange σ α) (g : ConnectorError → ConnectorError) (s : σ) :
    x.adapt g s = ((x s).1.mapError g, (x s).2) := rfl

theorem accept_of_isSuccess {r : Request} {response : Response} (h : response.isSuccess = true) :
    accept r (.ok response) = .ok response :=
  if_pos h

theorem execute_eq {c : Client σ} {r : Request} {s t : σ} {answer : Except Outage Response}
    (h : c.transport.send r s = (answer, t)) : c.execute r s = (accept r answer, t) := by
  simp only [execute, h]

/-! ## Creating -/

/-- The request that creates an entity. -/
def createRequest (base : String) (kind : EntityKind) (fields : Json) : Request :=
  .post (base ++ kind.createPath) (some fields)

/-- The handle in the location that an answer gives. -/
def postedHandle (url : String) (body : Json) (answer : Except Outage Response) :
    Except ConnectorError Handle :=
  (accept (.post url (some body)) answer).bind (locationHandle url)

/-- The handle that an answer to a create request gives. -/
def createdHandle (base : String) (kind : EntityKind) (fields : Json)
    (answer : Except Outage Response) : Except ConnectorError Handle :=
  match postedHandle (base ++ kind.createPath) fields answer with
  | .error e => .error e
  | .ok handle =>
    if handle.kind = kind then .ok handle
    else .error (.responseFormat (base ++ kind.createPath) (.wrongLocation kind handle.uri))

theorem postForHandle_eq {c : Client σ} {url : String} {body : Json} {s t : σ}
    {answer : Except Outage Response}
    (h : c.transport.send (.post url (some body)) s = (answer, t)) :
    c.postForHandle url body s = (postedHandle url body answer, t) := by
  have hpost : c.postJson url body s = (accept (.post url (some body)) answer, t) := execute_eq h
  unfold postedHandle
  cases haccept : accept (.post url (some body)) answer with
  | error e => exact bind_error (hpost.trans (congrArg (·, t) haccept))
  | ok response => exact bind_ok (hpost.trans (congrArg (·, t) haccept))

theorem create_eq {c : Client σ} {kind : EntityKind} {fields : Json} {s t : σ}
    {answer : Except Outage Response}
    (h : c.transport.send (createRequest c.baseUrl kind fields) s = (answer, t)) :
    c.create kind fields s = (createdHandle c.baseUrl kind fields answer, t) := by
  have hpost := postForHandle_eq h
  unfold createdHandle
  split
  · rename_i e he
    exact bind_error (hpost.trans (congrArg (·, _) he))
  · rename_i handle hhandle
    refine (bind_ok (hpost.trans (congrArg (·, _) hhandle))).trans ?_
    split <;> rfl

theorem kind_of_createdHandle {base : String} {kind : EntityKind} {fields : Json}
    {answer : Except Outage Response} {handle : Handle}
    (h : createdHandle base kind fields answer = .ok handle) : handle.kind = kind := by
  unfold createdHandle at h
  split at h
  · cases h
  · split at h
    · rename_i hkind
      cases h
      exact hkind
    · cases h

/-! ## Linking -/

/-- The request that adds `child` to the collection of `parent`. -/
def linkRequest (parent child : Handle) : Request :=
  .post (parent.relationUrl child.kind) (some (.texts [child.uri]))

/-- What an answer to it means. -/
def linkResult (parent child : Handle) (answer : Except Outage Response) :
    Except ConnectorError Unit :=
  match accept (linkRequest parent child) answer with
  | .error e => .error (staleOn404 (parent.relationUrl child.kind) e)
  | .ok _ => .ok ()

theorem link_eq {c : Client σ} {parent child : Handle} {s t : σ}
    {answer : Except Outage Response} (haccepts : parent.kind.accepts child.kind = true)
    (h : c.transport.send (linkRequest parent child) s = (answer, t)) :
    c.link parent child s = (linkResult parent child answer, t) := by
  have hpost : c.postJson (parent.relationUrl child.kind) (.texts [child.uri]) s =
      (accept (linkRequest parent child) answer, t) := execute_eq h
  unfold link linkResult
  rw [if_pos haccepts]
  split
  · rename_i e he
    exact bind_error (by rw [adapt_eq, hpost, he]; rfl)
  · rename_i response hresponse
    exact bind_ok (a := response) (by rw [adapt_eq, hpost, hresponse]; rfl)

/-! ## With the calls kept -/

section Logging

variable {c : Client σ} {s t : σ} {answer : Except Outage Response}

theorem logging_send {r : Request} (h : c.transport.send r s = (answer, t)) (log : List Call) :
    c.logging.transport.send r (s, log) = (answer, t, log ++ [(r, answer)]) := by
  simp only [logging, Transport.logging, h]

theorem logging_create {kind : EntityKind} {fields : Json}
    (h : c.transport.send (createRequest c.baseUrl kind fields) s = (answer, t))
    (log : List Call) :
    c.logging.create kind fields (s, log) = (createdHandle c.baseUrl kind fields answer, t,
      log ++ [(createRequest c.baseUrl kind fields, answer)]) :=
  create_eq (logging_send h log)

theorem logging_link {parent child : Handle} (haccepts : parent.kind.accepts child.kind = true)
    (h : c.transport.send (linkRequest parent child) s = (answer, t)) (log : List Call) :
    c.logging.link parent child (s, log) =
      (linkResult parent child answer, t, log ++ [(linkRequest parent child, answer)]) :=
  link_eq haccepts (logging_send h log)

end Logging

end Client

end Dataspace
