/-
The follow-ups of a provisioned offer.

Each requested follow-up is visited in a fixed order, and the first that fails is the last.
`FollowUpVisit.Serves` says of each what it asks of whom: an image is published by calls of
the engine alone, an event is one request to the webhook, and an artifact is collected by one
or two requests to its own URI.  The event names the digest that the push before it reported.
-/
import Dataspace.Command.Provision
import Dataspace.Proofs.Contacts
import Dataspace.Proofs.Notifying
import Dataspace.Proofs.Publishing

namespace Dataspace

/-- What can be done after an offer was provisioned. -/
inductive FollowUp where
  | publish
  | event
  | collect
deriving DecidableEq

namespace ProvisionOptions

def wants (o : ProvisionOptions) : FollowUp → Bool
  | .publish => o.publishImage
  | .event => o.simulateEvent
  | .collect => o.download

/-- The requested follow-ups, in their order. -/
def followUps (o : ProvisionOptions) : List FollowUp :=
  [.publish, .event, .collect].filter o.wants

end ProvisionOptions

/-- A follow-up that was come to: what was asked of the partners for it, and how it failed, if it
did. -/
structure FollowUpVisit where
  what : FollowUp
  contacts : List Contact
  error? : Option CommandError

/-- The digest in the answer to a push. -/
def Contact.digest? : Contact → Option String
  | engine (.push _, .digest digest) => digest
  | _ => none

/-- The digest that was reported by the push of these visits. -/
def pushedDigest? (visits : List FollowUpVisit) : Option String :=
  (visits.flatMap FollowUpVisit.contacts).findSome? Contact.digest?

section Serves

variable {σ η : Type}

/-- The event that tells of the push of a resource's image, and the request that posts it. -/
def pushEvent (p : Partners σ η) (c : Configuration) (reference : ImageReference)
    (digest : Option String) : RegistryEvent :=
  .pushed reference (Command.eventTag c none) digest p.now

def eventRequest (p : Partners σ η) (event : RegistryEvent) : Request :=
  .post (p.client.url webhookPath) (some event.toJson)

/-- What a follow-up for an offer does, after the visits of those before it. -/
inductive FollowUpVisit.Serves (p : Partners σ η) (c : Configuration) (g : OfferGraph)
    (before : List FollowUpVisit) : FollowUpVisit → Prop
  | published {made : List MadeCall} {result : Except RegistryError PublishReport} :
      PublishSettings.Outcome ⟨c.registry, c.image, g.resource.id⟩ made result →
      Serves p c g before ⟨.publish, made.map .engine,
        (failure? result).map fun x => ⟨[.publishingImage g.resource.id], .registry x⟩⟩
  /-- The settings give no reference for the event. -/
  | unnamed {x : RegistryError} :
      ImageReference.ofResource c.registry g.resource.id c.image.version = .error x →
      Serves p c g before ⟨.event, [], some ⟨[], .registry x⟩⟩
  /-- The event is not fit to be sent. -/
  | unfit {reference : ImageReference} {x : RegistryError} :
      ImageReference.ofResource c.registry g.resource.id c.image.version = .ok reference →
      (pushEvent p c reference (pushedDigest? before)).validate = .error x →
      Serves p c g before ⟨.event, [], some ⟨[.sendingEvent], .registry x⟩⟩
  /-- The event is posted; it is about the resource and has the digest that was pushed, or the sample
  one. -/
  | posted {reference : ImageReference} {event : RegistryEvent} (answer : Except Outage Response) :
      ImageReference.ofResource c.registry g.resource.id c.image.version = .ok reference →
      event = pushEvent p c reference (pushedDigest? before) →
      event.repository.name = Text.trim g.resource.id →
      event.resources.map EventResource.digest = [(pushedDigest? before).getD sampleDigest] →
      Serves p c g before ⟨.event, [.request (eventRequest p event, answer)],
        (failure? (Client.accept (eventRequest p event) answer)).map
          fun x => ⟨[.sendingEvent], .registry (.connector x)⟩⟩
  /-- The metadata is not there, or is no JSON text. -/
  | unfetched {answer : Except Outage Response} {x : ConnectorError} :
      Serves p c g before ⟨.collect, [.request (.get g.artifact.uri, answer)],
        some ⟨[.fetchingArtifact], .connector x⟩⟩
  /-- With the metadata there, the data is asked for; it is not there or cannot be stored, if there
  is an error. -/
  | fetched (answer data : Except Outage Response) (error : Option ConnectorError) :
      (Client.accept (.get g.artifact.uri) answer).isOk = true →
      (error = none → (Client.accept (.get (g.artifact.uri ++ "/data")) data).isOk = true) →
      Serves p c g before ⟨.collect,
        [.request (.get g.artifact.uri, answer), .request (.get (g.artifact.uri ++ "/data"), data)],
        error.map fun x => ⟨[.downloadingData], .connector x⟩⟩

/-- A part of a command, run from a desk, is this visit of a follow-up. -/
structure FollowUpVisit.IsRun {α : Type} (p : Partners σ η) (c : Configuration) (g : OfferGraph)
    (before : List FollowUpVisit) (x : Command σ η α)
    (y : Command (σ × List Call) (η × List MadeCall) α) (d : Desk σ η)
    (result : Except CommandError α) (d' : Desk σ η) (v : FollowUpVisit) : Prop where
  serves : v.Serves p c g before
  error : v.error? = failure? result
  noted : Noted Desk.keeping x y d result d' v.contacts

end Serves

/-! ## Each follow-up -/

namespace Command

variable {σ η : Type} (p : Partners σ η) (c : Configuration) (g : OfferGraph)
  (before : List FollowUpVisit) (d : Desk σ η)

theorem publish_visit : ∃ v result d', FollowUpVisit.what v = .publish ∧
    v.IsRun p c g before (publish p c.registry c.image g.resource.id)
      (publish p.logging c.registry c.image g.resource.id) d result d' ∧
    ∀ report, result = .ok report → pushedDigest? [v] = report.digest := by
  obtain ⟨result, t, made, hnoted, houtcome⟩ :=
    PublishSettings.noted_publishImage ⟨c.registry, c.image, g.resource.id⟩ p.engine d.engine
  have hrun := noted_during (noted_engineRun hnoted) (.publishingImage g.resource.id)
  cases result with
  | error x => exact ⟨_, _, _, rfl, ⟨.published houtcome, rfl, hrun.bind_error⟩, nofun⟩
  | ok report =>
      obtain ⟨images, digest, rfl, rfl, -⟩ := houtcome.reported report rfl
      refine ⟨_, .ok _, _, rfl, ⟨.published houtcome, rfl,
        hrun.bind_quiet (bind_ok rfl) fun _ => bind_ok rfl⟩, ?_⟩
      intro report hreport
      cases hreport
      cases digest with
      | none => rfl
      | some digest => rfl

/-- An event that is not fit to be sent is no request. -/
theorem noted_send_of_unfit {event : RegistryEvent} {x : RegistryError}
    (hunfit : event.validate = .error x) (s : σ) :
    Noted Prod.mk (event.send p.client) (event.send p.logging.client) s (.error x) s [] := by
  refine .quiet ?_ fun log => ?_
  · unfold RegistryEvent.send
    rw [hunfit]
  · unfold RegistryEvent.send
    rw [hunfit]

/-- One that is fit is one request, and comes to what is answered to that. -/
theorem noted_send_of_fit {event : RegistryEvent} (hfit : event.validate = .ok ()) {s t : σ}
    {answer : Except Outage Response}
    (hanswer : p.client.transport.send (eventRequest p event) s = (answer, t)) :
    Noted Prod.mk (event.send p.client) (event.send p.logging.client) s
      (((Client.accept (eventRequest p event) answer).map Response.text).mapError .connector) t
      [(eventRequest p event, answer)] where
  plain := RegistryEvent.send_eq hfit hanswer
  noted log := RegistryEvent.send_eq (c := p.logging.client) hfit (Client.logging_send hanswer log)

/-- Without a reference nothing is sent. -/
theorem noted_sendPushEvent_of_error {id : String} {x : RegistryError}
    (hreference : ImageReference.ofResource c.registry id c.image.version = .error x)
    (tag digest : Option String) :
    Noted Desk.keeping (sendPushEvent p c id tag digest) (sendPushEvent p.logging c id tag digest) d
      (.error ⟨[], .registry x⟩) d [] := by
  unfold sendPushEvent
  rw [hreference]
  exact Noted.bind_error (.quiet rfl fun _ => rfl)

/-- With a reference, sending the event of a push is sending its event. -/
theorem noted_sendPushEvent {id : String} {tag digest : Option String} {reference : ImageReference}
    {event : RegistryEvent}
    (hreference : ImageReference.ofResource c.registry id c.image.version = .ok reference)
    (hevent : event = .pushed reference (eventTag c tag) digest p.now)
    {result : Except RegistryError String} {t : σ} {calls : List Call}
    (hsend : Noted Prod.mk (event.send p.client) (event.send p.logging.client) d.link result t
      calls) :
    Noted Desk.keeping (sendPushEvent p c id tag digest) (sendPushEvent p.logging c id tag digest) d
      (result.mapError fun x => ⟨[.sendingEvent], .registry x⟩) { d with link := t }
      (calls.map .request) := by
  subst hevent
  have hrun := noted_during (noted_notification hsend) .sendingEvent
  unfold sendPushEvent
  rw [hreference]
  cases result with
  | ok text => exact Noted.bind_ok (.quiet rfl fun _ => rfl) hrun
  | error x => exact Noted.bind_ok (.quiet rfl fun _ => rfl) hrun

theorem event_visit {digest : Option String} (hdigest : digest = pushedDigest? before) :
    ∃ v result d', FollowUpVisit.what v = .event ∧
      v.IsRun p c g before (tellOfPush p c g.resource.id digest)
        (tellOfPush p.logging c g.resource.id digest) d result d' := by
  subst hdigest
  cases hreference : ImageReference.ofResource c.registry g.resource.id c.image.version with
  | error x =>
      have hnone := noted_sendPushEvent_of_error p c d hreference none (pushedDigest? before)
      exact ⟨_, .error _, d, rfl, .unnamed hreference, rfl, hnone.bind_error⟩
  | ok reference =>
      cases hfit : (pushEvent p c reference (pushedDigest? before)).validate with
      | error x =>
          have hrun := noted_sendPushEvent p c d hreference rfl
            (noted_send_of_unfit p hfit d.link)
          exact ⟨_, .error _, d, rfl, .unfit hreference hfit, rfl, hrun.bind_error⟩
      | ok _ =>
          rcases hanswer : p.client.transport.send
            (eventRequest p (pushEvent p c reference (pushedDigest? before))) d.link
            with ⟨answer, t⟩
          have hrun := noted_sendPushEvent p c d hreference rfl (noted_send_of_fit p hfit hanswer)
          have hserves : FollowUpVisit.Serves p c g before _ :=
            .posted answer hreference rfl (ImageReference.resourceId_of_ofResource hreference) rfl
          cases haccept : Client.accept (eventRequest p
              (pushEvent p c reference (pushedDigest? before))) answer with
          | error x =>
              rw [haccept] at hrun hserves
              exact ⟨_, .error _, _, rfl, hserves, rfl, hrun.bind_error⟩
          | ok response =>
              rw [haccept] at hrun hserves
              exact ⟨_, .ok (), _, rfl, hserves, rfl, hrun.bind_quiet rfl fun _ => rfl⟩

/-- The metadata of an artifact is one request. -/
theorem noted_fetchArtifact (artifact : Handle) (s : σ) :
    ∃ answer result t, Noted Prod.mk (p.client.fetchArtifact artifact)
      (p.logging.client.fetchArtifact artifact) s result t [(.get artifact.uri, answer)] ∧
      (result.isOk = true → (Client.accept (.get artifact.uri) answer).isOk = true) := by
  obtain ⟨answer, t, hget⟩ := p.client.noted_execute (.get artifact.uri) s
  cases haccept : Client.accept (.get artifact.uri) answer with
  | error x =>
      rw [haccept] at hget
      refine ⟨answer, .error x, t, hget.bind_error, ?_⟩
      rw [haccept]
      exact id
  | ok response =>
      rw [haccept] at hget
      cases hparse : Json.parseBytes? response.body with
      | none =>
          refine ⟨answer, .error (.responseFormat artifact.uri .metadataNotJson), t,
            hget.bind_quiet ?_ fun log => ?_, nofun⟩
          · rw [hparse]
            rfl
          · rw [hparse]
            rfl
      | some v =>
          refine ⟨answer, .ok v, t, hget.bind_quiet ?_ fun log => ?_, fun _ => by rw [haccept]; rfl⟩
          · rw [hparse]
            rfl
          · rw [hparse]
            rfl

/-- Its data is one request, whatever becomes of it. -/
theorem noted_downloadData (artifact : Handle) (directory : String) (s : σ) (disk : Disk) :
    ∃ data result t disk', Noted (fun s log => ((s.1, log), s.2))
      (p.client.downloadData artifact directory) (p.logging.client.downloadData artifact directory)
      (s, disk) result (t, disk') [(.get (artifact.uri ++ "/data"), data)] ∧
      (failure? result = none →
        (Client.accept (.get (artifact.uri ++ "/data")) data).isOk = true) := by
  obtain ⟨data, t, hget⟩ := p.client.noted_execute (.get (artifact.uri ++ "/data")) s
  have hplain : p.client.get (artifact.uri ++ "/data") s =
      (Client.accept (.get (artifact.uri ++ "/data")) data, t) := hget.plain
  have hlog : ∀ log, p.logging.client.get (artifact.uri ++ "/data") (s, log) =
      (Client.accept (.get (artifact.uri ++ "/data")) data, t,
        log ++ [(.get (artifact.uri ++ "/data"), data)]) := hget.noted
  cases haccept : Client.accept (.get (artifact.uri ++ "/data")) data with
  | error x =>
      rw [haccept] at hplain hlog
      refine ⟨data, .error x, t, disk, ⟨?_, fun log => ?_⟩, nofun⟩
      · simp only [Client.downloadData, hplain]
      · simp only [Client.downloadData, hlog]
  | ok response =>
      rw [haccept] at hplain hlog
      rcases hstore : storeData artifact directory response.body disk with ⟨result, disk'⟩
      refine ⟨data, result, t, disk', ⟨?_, fun log => ?_⟩, fun _ => by rw [haccept]; rfl⟩
      · simp only [Client.downloadData, hplain, hstore]
      · simp only [Client.downloadData, hlog, hstore]

theorem collect_visit (directory : String) :
    ∃ v result d', FollowUpVisit.what v = .collect ∧
      v.IsRun p c g before (collectArtifact p g.artifact directory)
        (collectArtifact p.logging g.artifact directory) d result d' := by
  obtain ⟨answer, result, t, hfetch, haccepted⟩ := noted_fetchArtifact p g.artifact d.link
  have hmetadata := noted_during (noted_exchange hfetch) .fetchingArtifact
  cases result with
  | error x => exact ⟨_, .error _, _, rfl, .unfetched, rfl, hmetadata.bind_error⟩
  | ok metadata =>
      obtain ⟨data, result, u, disk, hload, hstored⟩ :=
        noted_downloadData p g.artifact directory t d.disk
      -- the metadata is printed before the data is asked for
      have hdata := noted_during (noted_exchangeStoring (d := { d with
        link := t, printed := d.printed ++ [metadata.pretty] }) hload) .downloadingData
      have hserves : FollowUpVisit.Serves p c g before _ :=
        .fetched answer data (failure? result) (haccepted rfl) hstored
      cases result with
      | error x =>
          exact ⟨_, .error _, _, rfl, hserves, rfl,
            hmetadata.bind_ok (.quiet_bind rfl (fun _ => rfl) hdata.bind_error)⟩
      | ok download =>
          exact ⟨_, .ok (metadata, download), _, rfl, hserves, rfl,
            hmetadata.bind_ok (.quiet_bind rfl (fun _ => rfl)
              (hdata.bind_quiet (bind_ok rfl) fun _ => bind_ok rfl))⟩

end Command

/-! ## All of them in turn -/

section Attending

variable {σ η α β : Type} {p : Partners σ η} {c : Configuration} {g : OfferGraph}
  {before visits : List FollowUpVisit} {tasks : List FollowUp} {error : Option CommandError}

/-- These follow-ups are visited in turn, up to the first that fails, after the visits before. -/
structure Attended (p : Partners σ η) (c : Configuration) (g : OfferGraph)
    (before : List FollowUpVisit) (tasks : List FollowUp) (visits : List FollowUpVisit)
    (error : Option CommandError) : Prop where
  inTurn : InTurn FollowUpVisit.what FollowUpVisit.error? tasks visits error
  serves : ∀ done v rest, visits = done ++ v :: rest → v.Serves p c g (before ++ done)

theorem Attended.nil : Attended p c g before [] [] none where
  inTurn := .all
  serves := fun _ _ _ h => absurd h.symm (by simp)

theorem Attended.failed {v : FollowUpVisit} {e : CommandError} (hv : v.Serves p c g before)
    (he : v.error? = some e) : Attended p c g before (v.what :: tasks) [v] (some e) where
  inTurn := .failed he
  serves := fun done u rest h => by
    cases done with
    | nil =>
        cases h
        rw [List.append_nil]
        exact hv
    | cons _ _ => simp at h

theorem Attended.cons {v : FollowUpVisit} (hv : v.Serves p c g before) (hnone : v.error? = none)
    (h : Attended p c g (before ++ [v]) tasks visits error) :
    Attended p c g before (v.what :: tasks) (v :: visits) error where
  inTurn := .next hnone h.inTurn
  serves := fun done u rest heq => by
    cases done with
    | nil =>
        cases heq
        rw [List.append_nil]
        exact hv
    | cons first done =>
        obtain ⟨rfl, hrest⟩ := List.cons.inj heq
        rw [List.append_cons]
        exact h.serves done u rest hrest

/-- From a desk the part of a command attends to these follow-ups, and nothing else; `ends` says
what it gives if none of them fails. -/
def Attends (p : Partners σ η) (c : Configuration) (g : OfferGraph) (before : List FollowUpVisit)
    (tasks : List FollowUp) (ends : α → Prop) (x : Command σ η α)
    (y : Command (σ × List Call) (η × List MadeCall) α) (d : Desk σ η) : Prop :=
  ∃ visits result d', Noted Desk.keeping x y d result d' (visits.flatMap FollowUpVisit.contacts) ∧
    Attended p c g before tasks visits (failure? result) ∧ ∀ a, result = .ok a → ends a

theorem Attends.pure {ends : α → Prop} {a : α} (h : ends a) (d : Desk σ η) :
    Attends p c g before [] ends (Pure.pure a) (Pure.pure a) d := by
  refine ⟨[], .ok a, d, .quiet rfl fun _ => rfl, .nil, ?_⟩
  intro b hb
  cases hb
  exact h

/-- A part before that asks nobody. -/
theorem Attends.quiet_bind {x : Command σ η α}
    {y : Command (σ × List Call) (η × List MadeCall) α} {f : α → Command σ η β}
    {k : α → Command (σ × List Call) (η × List MadeCall) β} {d m : Desk σ η} {a : α}
    {ends : β → Prop} (hx : x d = (.ok a, m))
    (hy : ∀ log, y (d.keeping log) = (.ok a, m.keeping log))
    (hrest : Attends p c g before tasks ends (f a) (k a) m) :
    Attends p c g before tasks ends (x >>= f) (y >>= k) d := by
  obtain ⟨visits, result, d', hnoted, hattended, hends⟩ := hrest
  exact ⟨visits, result, d', .quiet_bind hx hy hnoted, hattended, hends⟩

/-- A follow-up that is attended to if it is wanted, and before the rest. -/
theorem Attends.requested {x : Command σ η α} {y : Command (σ × List Call) (η × List MadeCall) α}
    {f : Option α → Command σ η β}
    {k : Option α → Command (σ × List Call) (η × List MadeCall) β} {d : Desk σ η} {wanted : Bool}
    {what : FollowUp} {ends : β → Prop} (gives : FollowUpVisit → α → Prop)
    (hpart : ∃ v result d', FollowUpVisit.what v = what ∧ v.IsRun p c g before x y d result d' ∧
      ∀ a, result = .ok a → gives v a)
    (hskip : wanted = false → Attends p c g before tasks ends (f none) (k none) d)
    (hgo : ∀ v a d', wanted = true → gives v a →
      Attends p c g (before ++ [v]) tasks ends (f (some a)) (k (some a)) d') :
    Attends p c g before ((if wanted then [what] else []) ++ tasks) ends
      (Command.requested wanted x >>= f) (Command.requested wanted y >>= k) d := by
  cases wanted with
  | false => exact .quiet_bind rfl (fun _ => rfl) (hskip rfl)
  | true =>
      obtain ⟨v, result, m, rfl, hrun, hgives⟩ := hpart
      cases result with
      | error e =>
          refine ⟨[v], .error e, m, ?_, .failed hrun.serves hrun.error, nofun⟩
          rw [List.flatMap_singleton]
          exact (hrun.noted.bind_error).bind_error
      | ok a =>
          obtain ⟨visits, result, d', hnoted, hattended, hends⟩ := hgo v a m rfl (hgives a rfl)
          refine ⟨v :: visits, result, d', ?_, hattended.cons hrun.serves hrun.error, hends⟩
          have hpart : Noted Desk.keeping (Command.requested true x) (Command.requested true y) d
              (.ok (some a)) m v.contacts := hrun.noted.bind_quiet rfl fun _ => rfl
          exact hpart.bind_ok hnoted

theorem ProvisionOptions.followUps_eq (o : ProvisionOptions) :
    o.followUps = (if o.publishImage then [.publish] else []) ++
      ((if o.simulateEvent then [.event] else []) ++
        ((if o.download then [.collect] else []) ++ [])) := by
  obtain ⟨keepGoing, publishImage, simulateEvent, download, directory⟩ := o
  cases publishImage <;> cases simulateEvent <;> cases download <;> rfl

end Attending

/-! ## The follow-ups, part by part -/

namespace Command

variable {σ η : Type} (p : Partners σ η) (c : Configuration) (o : ProvisionOptions)
  (failedSteps : Nat) (g : OfferGraph)

/-- From the collecting of the artifact on. -/
def collecting (published : Option PublishReport) (sent : Option Unit) :
    Command σ η ProvisionSummary := do
  let collected ← requested o.download (collectArtifact p g.artifact o.directory)
  return { graph := some g
           failedSteps := failedSteps
           published := published
           eventSent := sent.isSome
           artifact := collected.map Prod.fst
           download := collected.map Prod.snd }

/-- From the sending of the event on. -/
def notifying (published : Option PublishReport) : Command σ η ProvisionSummary := do
  let sent ← requested o.simulateEvent
    (tellOfPush p c g.resource.id (published.bind PublishReport.digest))
  collecting p o failedSteps g published sent

theorem followUp_eq : followUp p c o failedSteps g = (do
    sayAll (graphLines g)
    let published ← requested o.publishImage (publish p c.registry c.image g.resource.id)
    notifying p c o failedSteps g published) := rfl

/-- The summary is of this offer, with so many failed steps. -/
def Summarizes (summary : ProvisionSummary) : Prop :=
  summary.graph = some g ∧ summary.failedSteps = failedSteps

variable (before : List FollowUpVisit) (d : Desk σ η)

theorem collecting_attends (published : Option PublishReport) (sent : Option Unit) :
    Attends p c g before ((if o.download then [.collect] else []) ++ [])
      (Summarizes failedSteps g) (collecting p o failedSteps g published sent)
      (collecting p.logging o failedSteps g published sent) d := by
  obtain ⟨v, result, d', hwhat, hrun⟩ := collect_visit p c g before d o.directory
  exact .requested (fun _ _ => True) ⟨v, result, d', hwhat, hrun, fun _ _ => trivial⟩
    (fun _ => .pure ⟨rfl, rfl⟩ d) fun _ _ d' _ _ => .pure ⟨rfl, rfl⟩ d'

theorem notifying_attends {published : Option PublishReport}
    (hdigest : published.bind PublishReport.digest = pushedDigest? before) :
    Attends p c g before ((if o.simulateEvent then [.event] else []) ++
        ((if o.download then [.collect] else []) ++ []))
      (Summarizes failedSteps g) (notifying p c o failedSteps g published)
      (notifying p.logging c o failedSteps g published) d := by
  obtain ⟨v, result, d', hwhat, hrun⟩ := event_visit p c g before d hdigest
  exact .requested (fun _ _ => True) ⟨v, result, d', hwhat, hrun, fun _ _ => trivial⟩
    (fun _ => collecting_attends p c o failedSteps g _ d published none)
    fun _ _ d' _ _ => collecting_attends p c o failedSteps g _ d' published (some ())

/-- What follows a provisioned offer is the requested follow-ups in turn. -/
theorem followUp_attends : Attends p c g [] o.followUps (Summarizes failedSteps g)
    (followUp p c o failedSteps g) (followUp p.logging c o failedSteps g) d := by
  rw [o.followUps_eq, followUp_eq, followUp_eq]
  refine .quiet_bind rfl (fun _ => rfl) ?_
  obtain ⟨v, result, d', hwhat, hrun, hdigest⟩ := publish_visit p c g []
    { d with printed := d.printed ++ graphLines g }
  exact .requested (fun v report => pushedDigest? [v] = PublishReport.digest report)
    ⟨v, result, d', hwhat, hrun, hdigest⟩
    (fun _ => notifying_attends p c o failedSteps g [] _ rfl)
    fun v report d' _ hdigest => notifying_attends p c o failedSteps g [v] d' hdigest.symm

end Command

end Dataspace
