/-
Sending an event to the connector that it is for.

An event is checked twice: by its sender as a record, and by the listener as the
value that was posted.  Of the five things that the listener asks for four are
there in the value of any event.  The fifth is the name of the repository, which
the sender reads trimmed and the listener as it stands.  So of the events that
are fit to be sent exactly those with blanks around that name are refused.
-/
import Dataspace.Proofs.Asking
import Dataspace.Proofs.UuidText
import Dataspace.Registry.Event

namespace Dataspace

open Text

namespace RegistryEvent

variable {e : RegistryEvent}

/-! ## What the sender checks -/

theorem validate_ok_iff :
    e.validate = .ok () ↔ e.resources ≠ [] ∧ Uuid.isText (trim e.repository.name) = true := by
  have hempty : Uuid.isText "" = false := by decide +kernel
  rw [validate, defect?]
  by_cases hresources : e.resources = []
  · simp [hresources]
  · by_cases hname : trim e.repository.name = ""
    · simp [hresources, hname, hempty]
    · by_cases htext : Uuid.isText (trim e.repository.name) = true
      · simp [hresources, hname, htext]
      · simp [hresources, hname, htext]

/-! ## What the listener reads -/

section Members

theorem get?_type (e : RegistryEvent) : e.toJson.get? "type" = some (.str e.eventType.name) := by
  simp [toJson, Json.get?_object, Keyed.lookup]

theorem get?_occurAt (e : RegistryEvent) : e.toJson.get? "occur_at" = some (.int e.occurAt) := by
  simp [toJson, Json.get?_object, Keyed.lookup]

theorem get?_eventData (e : RegistryEvent) : e.toJson.get? "event_data" = some e.dataJson := by
  simp [toJson, Json.get?_object, Keyed.lookup]

theorem get?_resources (e : RegistryEvent) :
    e.dataJson.get? "resources" = some (.arr (e.resources.map EventResource.toJson)) := by
  simp [dataJson, Json.get?_object, Keyed.lookup]

theorem get?_repository (e : RegistryEvent) :
    e.dataJson.get? "repository" = some e.repository.toJson := by
  simp [dataJson, Json.get?_object, Keyed.lookup]

theorem get?_name (r : EventRepository) : r.toJson.get? "name" = some (.str r.name) := by
  simp [EventRepository.toJson, Json.get?_object, Keyed.lookup]

end Members

/-- A number of seconds that fits a word of 64 bits is read. -/
theorem asInt64?_seconds {n : Int} (h : Time.InWord n) : (Json.int n).asInt64? = some n := by
  have hwithin : (decide (-0x8000000000000000 ≤ n) && decide (n ≤ 0x7fffffffffffffff)) = true :=
    Bool.and_eq_true_iff.mpr ⟨decide_eq_true h.1, decide_eq_true h.2⟩
  have hint : (Json.int n).asInt? = some n := rfl
  rw [Json.asInt64?, Json.asIntWithin?, hint, Option.filter_some, if_pos hwithin]

/-- Nothing but the name of the repository can be wrong with the value of an event. -/
theorem eventFault?_toJson (htime : Time.InWord e.occurAt) :
    Site.eventFault? e.toJson
      = if Uuid.isText e.repository.name = true then none else some .nameNotUuid := by
  have hclock : (Json.int e.occurAt).asInt64? = some e.occurAt := asInt64?_seconds htime
  have hdata : Option.filter Json.isObject (some e.dataJson) = some e.dataJson := rfl
  simp only [Site.eventFault?, get?_type, get?_occurAt, get?_eventData, hdata, get?_resources,
    get?_repository, get?_name, Option.bind_some, Json.asString?, hclock, Json.asArray?]
  rfl

end RegistryEvent

/-! ## Sending -/

/-- The message of a refusal is read back from its response. -/
theorem Refusal.message?_response (r : Refusal) : r.response.message? = some r.message := by
  have hordered : (Json.object [("message", .str r.message)]).Ordered :=
    Json.ordered_object (List.forall_mem_singleton.mpr trivial)
  have hread := Json.parseBytes?_compact hordered fun n hn => nomatch hn
  have hdepth : (Json.object [("message", .str r.message)]).depth = 1 := rfl
  rw [hdepth, if_pos (by decide)] at hread
  have hmember : (Json.object [("message", .str r.message)]).get? "message"
      = some (.str r.message) := by
    simp [Json.get?_object, Keyed.lookup]
  unfold Response.message? response Response.ofJson
  simp only [hread, Option.bind_eq_bind, Option.bind_some, List.findSome?_cons, hmember,
    Json.asString?]

theorem Route.find_webhook (base : String) :
    find base .post (base ++ webhookPath) = .ok .webhook := by
  have hpath : webhookPath = "/api/" ++ "webhook/registry" := by decide +kernel
  have hsplit : split '/' "webhook/registry" = ["webhook", "registry"] := by decide +kernel
  rw [hpath, find_post base (by decide +kernel) hsplit]
  rfl

section Send

variable {site : Site} {s : Store} {e : RegistryEvent}

/-- The request that posts an event. -/
def RegistryEvent.request (base : String) (e : RegistryEvent) : Request :=
  .post (base ++ webhookPath) (some e.toJson)

/-- An event that is fit to be sent is one request. -/
theorem RegistryEvent.send_eq {σ : Type} {c : Client σ} {t u : σ} {answer : Except Outage Response}
    (hvalid : e.validate = .ok ())
    (h : c.transport.send (e.request c.baseUrl) t = (answer, u)) :
    e.send c t = (((Client.accept (e.request c.baseUrl) answer).map Response.text).mapError
      .connector, u) := by
  have hexecute : c.execute (.post (c.url webhookPath) (some e.toJson)) t
      = (Client.accept (e.request c.baseUrl) answer, u) := Client.execute_eq h
  unfold send
  rw [hvalid, hexecute]
  cases Client.accept (e.request c.baseUrl) answer <;> rfl

theorem Site.reply_event (site : Site) (e : RegistryEvent) (s : Store) :
    site.reply (e.request site.baseUrl) s = webhook (some e.toJson) s :=
  congrArg (Except.bind · _) (Route.find_webhook site.baseUrl)

/-- The listener records an event whose repository is named by a UUID, and nothing else of the
store is changed. -/
theorem Site.send_event (htime : Time.InWord e.occurAt) (hname : Uuid.isText e.repository.name = true) :
    site.transport.send (e.request site.baseUrl) s
      = (.ok (.ofJson 200 (.object [])), { s with events := s.events ++ [e.toJson] }) := by
  refine send_of_reply ((reply_event site e s).trans ?_)
  simp only [webhook, RegistryEvent.eventFault?_toJson htime, if_pos hname]
  rfl

theorem Site.send_event_refused (htime : Time.InWord e.occurAt)
    (hname : ¬ Uuid.isText e.repository.name = true) :
    site.transport.send (e.request site.baseUrl) s
      = (.ok (Refusal.invalidEvent .nameNotUuid).response, s) := by
  refine send_of_refused ((reply_event site e s).trans ?_)
  simp only [webhook, RegistryEvent.eventFault?_toJson htime, if_neg hname]

/-- Sent by a client of that connector, such an event is recorded as it was sent. -/
theorem RegistryEvent.send_recorded (site : Site) (s : Store) (hvalid : e.validate = .ok ())
    (htime : Time.InWord e.occurAt) (hname : Uuid.isText e.repository.name = true) :
    e.send site.client s = (.ok "\x7b\x7d", { s with events := s.events ++ [e.toJson] }) := by
  have htext : (Response.ofJson 200 (.object [])).text = "\x7b\x7d" := by decide +kernel
  rw [send_eq (c := site.client) hvalid (Site.send_event htime hname),
    Client.accept_of_isSuccess rfl, ← htext]
  rfl

/-- An event that is fit to be sent, sent to the connector at the same base URL, whatever is in
store there.  It is recorded as it was sent, and nothing else changes, if there are no blanks
around the name of its repository; otherwise it is refused, and nothing changes. -/
theorem send_validated_event (site : Site) (s : Store) (hvalid : e.validate = .ok ())
    (htime : Time.InWord e.occurAt) :
    e.send site.client s =
      if trim e.repository.name = e.repository.name then
        (.ok "\x7b\x7d", { s with events := s.events ++ [e.toJson] })
      else
        (.error (.connector (.request (site.baseUrl ++ webhookPath) 400
          (some "invalid registry event: event_data.repository.name (not a UUID)")
          (Refusal.invalidEvent .nameNotUuid).response.text)), s) := by
  obtain ⟨-, htrimmed⟩ := RegistryEvent.validate_ok_iff.mp hvalid
  have hagree := Uuid.isText_iff_of_trim htrimmed
  by_cases hname : trim e.repository.name = e.repository.name
  · rw [if_pos hname, RegistryEvent.send_recorded site s hvalid htime (hagree.mpr hname)]
  · have hmessage : (Refusal.invalidEvent .nameNotUuid).message
        = "invalid registry event: event_data.repository.name (not a UUID)" := by
      decide +kernel
    rw [if_neg hname, RegistryEvent.send_eq (c := site.client) hvalid
      (Site.send_event_refused htime fun h => hname (hagree.mp h)), ← hmessage,
      ← Refusal.message?_response]
    rfl

/-- The event that an image was pushed to a repository of this name. -/
def RegistryEvent.named (name : String) : RegistryEvent where
  eventType := .pushArtifact
  occurAt := 1617708824
  operator := "admin"
  resources := [⟨sampleDigest, "latest", "registry.test/library/image"⟩]
  repository := ⟨1617708824, name, "library", "library/image", "private"⟩

/-- A name as the connector gives it. -/
theorem send_validated_event_named :
    let e := RegistryEvent.named "97fa143c-b19e-4b95-9ae9-9ec68ea880ad"
    let site := Site.counting "https://connector.test"
    e.validate = .ok () ∧ Time.InWord e.occurAt ∧
      e.send site.client .empty = (.ok "\x7b\x7d", { Store.empty with events := [e.toJson] }) := by
  intro e site
  have hvalid : e.validate = .ok () :=
    RegistryEvent.validate_ok_iff.mpr ⟨List.cons_ne_nil _ _, by decide +kernel⟩
  have htime : Time.InWord e.occurAt := by decide
  have htrim : trim e.repository.name = e.repository.name := by decide +kernel
  refine ⟨hvalid, htime, ?_⟩
  rw [send_validated_event site .empty hvalid htime, if_pos htrim]
  rfl

/-- The two checks differ: with a blank on either side the name still passes the sender's. -/
theorem send_validated_event_padded :
    let e := RegistryEvent.named " 97fa143c-b19e-4b95-9ae9-9ec68ea880ad "
    let site := Site.counting "https://connector.test"
    e.validate = .ok () ∧ (e.send site.client .empty).1.isOk = false ∧
      (e.send site.client .empty).2.events.length = 0 := by
  intro e site
  refine ⟨RegistryEvent.validate_ok_iff.mpr ⟨List.cons_ne_nil _ _, by decide +kernel⟩, ?_, ?_⟩
  · decide +kernel
  · decide +kernel

end Send

end Dataspace
