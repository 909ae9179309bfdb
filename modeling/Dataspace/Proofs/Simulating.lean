/-
Dry runs of sending the event of a push.

Whether the event is sent is decided by the settings and the id before anybody is asked:
`Configuration.pushFault?` is the first thing that keeps it from being sent.  If there is
none the event names the repository by the id without the blanks around it, and that is
just what the listener of a dry run accepts.  The sender and the listener differ only on
names with blanks around them, and here there are none.
-/
import Dataspace.Proofs.DryRun
import Dataspace.Proofs.EventForms

namespace Dataspace

open Text

theorem Text.trim_trim (s : String) : trim (trim s) = trim s := by
  rw [trim, trim, String.toList_ofList, trimChars_idem]

/-! ## What keeps the event from being sent -/

namespace Configuration

/-- The first setting that is blank, or else that the id is no UUID. -/
def pushFault? (c : Configuration) (id : String) : Option RegistryError :=
  if trimmed c.registry.address = "" then some (.missing .address)
  else if trimmed c.registry.repository = "" then some (.missing .repository)
  else if trim id = "" then some (.missing .resourceId)
  else if Uuid.isText (trim id) = true then none
  else some (.invalidEvent (.notResourceId (trim id)))

/-- The parts of the reference of a resource. -/
def pushReference (c : Configuration) (id : String) : ImageReference :=
  PublishSettings.reference ⟨c.registry, c.image, id⟩

variable {c : Configuration} {id : String}

theorem pushFault?_eq_none_iff : c.pushFault? id = none ↔
    trimmed c.registry.address ≠ "" ∧ trimmed c.registry.repository ≠ "" ∧
      Uuid.isText (trim id) = true := by
  have hempty : Uuid.isText "" = false := by decide +kernel
  unfold pushFault?
  by_cases haddress : trimmed c.registry.address = ""
  · simp [haddress]
  · by_cases hrepository : trimmed c.registry.repository = ""
    · simp [haddress, hrepository]
    · by_cases hid : trim id = ""
      · simp [haddress, hrepository, hid, hempty]
      · simp [haddress, hrepository, hid]

/-- A setting that is blank leaves no reference, and otherwise the id is checked. -/
theorem pushFault?_cases (c : Configuration) (id : String) :
    (∃ x, ImageReference.ofResource c.registry id c.image.version = .error x ∧
      c.pushFault? id = some x) ∨
    (ImageReference.ofResource c.registry id c.image.version = .ok (c.pushReference id) ∧
      trim id ≠ "" ∧ c.pushFault? id = if Uuid.isText (trim id) = true then none
        else some (.invalidEvent (.notResourceId (trim id)))) := by
  have hreference := PublishSettings.ofResource_eq ⟨c.registry, c.image, id⟩
  rw [PublishSettings.unlessBlank, PublishSettings.named] at hreference
  have hid : trimmed (some id) = trim id := rfl
  rw [hreference]
  unfold pushFault?
  by_cases haddress : trimmed c.registry.address = ""
  · exact .inl ⟨.missing .address, by simp [haddress]⟩
  · by_cases hrepository : trimmed c.registry.repository = ""
    · exact .inl ⟨.missing .repository, by simp [haddress, hrepository]⟩
    · by_cases hblank : trim id = ""
      · exact .inl ⟨.missing .resourceId, by simp [haddress, hrepository, hid, hblank]⟩
      · exact .inr (by simp [haddress, hrepository, hid, hblank, pushReference])

/-- The event is fit to be sent just when the id is a UUID. -/
theorem validate_pushed (hid : trim id ≠ "") (tag : String) (digest : Option String)
    (now : Time.Instant) :
    (RegistryEvent.pushed (c.pushReference id) tag digest now).validate =
      if Uuid.isText (trim id) = true then .ok ()
      else .error (.invalidEvent (.notResourceId (trim id))) := by
  have hname : trim (RegistryEvent.pushed (c.pushReference id) tag digest now).repository.name
      = trim id := trim_trim id
  have hsome : (RegistryEvent.pushed (c.pushReference id) tag digest now).resources.isEmpty
      = false := rfl
  have hfilled : (trim id).isEmpty = false := by simpa using hid
  rw [RegistryEvent.validate, RegistryEvent.defect?]
  simp only [hname, hsome, hfilled]
  by_cases htext : Uuid.isText (trim id) = true
  · simp [htext]
  · simp [htext]

end Configuration

/-! ## The command -/

namespace Command

variable {σ η : Type} {c : Configuration} {id : String}

/-- With such a fault nobody is asked, and the fault is that of the command. -/
theorem noted_simulateEvent_of_fault (p : Partners σ η) {x : RegistryError}
    (hfault : c.pushFault? id = some x) (tag : Option String) (d : Desk σ η) :
    ∃ activities, Noted Desk.keeping (simulateEvent p c id tag) (simulateEvent p.logging c id tag) d
      (.error ⟨activities, .registry x⟩) d [] := by
  rcases c.pushFault?_cases id with ⟨y, hreference, hy⟩ | ⟨hreference, hid, hchecked⟩
  · obtain rfl : x = y := Option.some.inj (hfault.symm.trans hy)
    exact ⟨_, (noted_sendPushEvent_of_error p c d hreference tag none).bind_error⟩
  · have hunfit : (RegistryEvent.pushed (c.pushReference id) (eventTag c tag) none p.now).validate
        = .error x := by
      rw [Configuration.validate_pushed hid]
      rw [hfault] at hchecked
      split at hchecked
      · cases hchecked
      · rw [if_neg ‹_›, Option.some.inj hchecked]
    exact ⟨_, (noted_sendPushEvent p c d hreference rfl
      (noted_send_of_unfit p hunfit d.link)).bind_error⟩

/-- Without one the event is posted, and a connector in memory records it. -/
theorem noted_simulateEvent_of_no_fault (site : Site) (engine : Engine η) {now : Time.Instant}
    (hfault : c.pushFault? id = none) (tag : Option String) (hnow : Time.InWord now.seconds)
    (d : Desk Store η) :
    let p : Partners Store η := ⟨site.client, engine, now⟩
    let event := RegistryEvent.pushed (c.pushReference id) (eventTag c tag) none now
    ∃ printed, Noted Desk.keeping (simulateEvent p c id tag) (simulateEvent p.logging c id tag) d
      (.ok ()) { d with
        link := { d.link with events := d.link.events ++ [event.toJson] }, printed := printed }
      [.request (event.request site.baseUrl, .ok (.ofJson 200 (.object [])))] := by
  intro p event
  obtain ⟨-, -, htext⟩ := Configuration.pushFault?_eq_none_iff.mp hfault
  rcases c.pushFault?_cases id with ⟨y, -, hy⟩ | ⟨hreference, hid, -⟩
  · cases hfault.symm.trans hy
  · have hfit : event.validate = .ok () := by
      rw [Configuration.validate_pushed hid, if_pos htext]
    have hanswer := site.send_event (s := d.link) (e := event) hnow htext
    have hsent := noted_sendPushEvent p c d hreference rfl (noted_send_of_fit p hfit hanswer)
    exact ⟨_, hsent.bind_quiet rfl fun _ => rfl⟩

end Command

/-! ## The whole -/

/-- What a dry run that succeeds asked of the connector and left there: one request, and its body as
the only event, which is read back as that of the push of an image. -/
structure DrySimulated (c : Configuration) (id : String) (now : Time.Instant) (calls : List Call)
    (t : Store) (event : RegistryEvent) : Prop where
  sent : calls = [(.post (withoutSlashes c.connector.url ++ webhookPath) (some event.toJson),
    .ok (.ofJson 200 (.object [])))]
  recorded : t = { Store.empty with events := [event.toJson] }
  reads : RegistryEvent.ofJson? event.toJson = some event
  reads_text : (Json.parse? event.toJson.compact).bind RegistryEvent.ofJson? = some event
  eventType : event.eventType = .pushArtifact
  name : event.repository.name = trim id
  fullName : event.repository.fullName = trimmed c.registry.repository ++ "/" ++ trim id
  urls : event.resources.map EventResource.resourceUrl =
    [trimmed c.registry.address ++ "/" ++ trimmed c.registry.repository ++ "/" ++ trim id]
  occurred : event.occurAt = now.seconds
  created : event.repository.dateCreated = event.occurAt

theorem Configuration.drySimulated_pushed (c : Configuration) (id tag : String) {now : Time.Instant}
    (hnow : Time.InWord now.seconds) :
    let event := RegistryEvent.pushed (c.pushReference id) tag none now
    DrySimulated c id now [(event.request (withoutSlashes c.connector.url),
      .ok (.ofJson 200 (.object [])))] { Store.empty with events := [event.toJson] } event := by
  intro event
  have hclock : Time.InWord event.occurAt ∧ Time.InWord event.repository.dateCreated := ⟨hnow, hnow⟩
  exact {
    sent := rfl
    recorded := rfl
    reads := RegistryEvent.reads hclock.1 hclock.2
    reads_text := RegistryEvent.reads_text hclock.1 hclock.2
    eventType := rfl
    name := rfl
    fullName := rfl
    urls := rfl
    occurred := rfl
    created := rfl }

/-- For every configuration, resource id and tag, and at any time of a 64-bit clock, the event of a
push is sent in a dry run just when neither the address nor the repository is blank and the trimmed
id is a UUID.  Then it is the only request and the only event of the connector; otherwise nothing is
asked and nothing is recorded, and the error is the first fault. -/
theorem simulateEvent_dry_run {ν η : Type} (s : Surroundings ν η) (c : Configuration) (id : String)
    (tag : Option String) (d : Desk ν η) (hnow : Time.InWord s.now.seconds) :
    let start : Desk Store Unit := { d with link := Store.empty, engine := () }
    ∃ result after calls,
      Command.simulateEvent (s.dryPartners c) c id tag start = (result, after) ∧
      Command.simulateEvent (s.dryPartners c).logging c id tag (start.keeping [])
        = (result, after.keeping (calls.map .request)) ∧
      Command.either s c true (fun p => Command.simulateEvent p c id tag) d
        = (result, { d with disk := after.disk, printed := after.printed }) ∧
      (result = .ok () ↔ trimmed c.registry.address ≠ "" ∧ trimmed c.registry.repository ≠ "" ∧
        Uuid.isText (trim id) = true) ∧
      (result = .ok () → ∃ event, DrySimulated c id s.now calls after.link event) ∧
      ∀ e, result = .error e → calls = [] ∧ after.link = Store.empty ∧
        ∃ x, c.pushFault? id = some x ∧ e.fault = .registry x := by
  intro start
  have haside : ∀ {result after}, Command.simulateEvent (s.dryPartners c) c id tag start
      = (result, after) → Command.either s c true (fun p => Command.simulateEvent p c id tag) d
        = (result, { d with disk := after.disk, printed := after.printed }) := by
    intro result after hrun
    have hrun : Command.simulateEvent (s.dryPartners c) c id tag
        { d with link := Store.empty, engine := () } = (result, after) := hrun
    simp only [Command.either, if_true, Command.aside, hrun]
  cases hfault : c.pushFault? id with
  | some x =>
      obtain ⟨activities, hnoted⟩ :=
        Command.noted_simulateEvent_of_fault (s.dryPartners c) hfault tag start
      have hfails : (.error ⟨activities, .registry x⟩ : Except CommandError Unit) ≠ .ok () := by
        intro h
        cases h
      refine ⟨.error ⟨activities, .registry x⟩, start, [], hnoted.plain, hnoted.noted [],
        haside hnoted.plain, ?_, ?_, ?_⟩
      · rw [← Configuration.pushFault?_eq_none_iff, hfault]
        exact iff_of_false hfails (Option.some_ne_none x)
      · exact fun hok => absurd hok hfails
      · intro e he
        obtain rfl := Except.error.inj he
        exact ⟨rfl, rfl, x, rfl, rfl⟩
  | none =>
      obtain ⟨printed, hnoted⟩ := Command.noted_simulateEvent_of_no_fault
        (Site.ofUrl c.connector.url s.uuids) Engine.idle hfault tag hnow start
      rw [← s.dryPartners_eq c] at hnoted
      refine ⟨.ok (), _, [_], hnoted.plain, hnoted.noted [], haside hnoted.plain, ?_, ?_, ?_⟩
      · rw [← Configuration.pushFault?_eq_none_iff, hfault]
        exact iff_of_true rfl rfl
      · exact fun _ => ⟨_, c.drySimulated_pushed id _ hnow⟩
      · intro e he
        cases he

/-- An id in braces, with blanks around it and around the settings. -/
theorem simulateEvent_dry_run_braced :
    let c : Configuration := ⟨⟨"https://c//", "u", "p", false, 5, none⟩, .remote,
      ⟨some " registry", some "apps ", none, none⟩, ⟨none, none⟩, none, .empty⟩
    let s : Surroundings Unit Unit := ⟨⟨fun _ _ _ _ _ => (none, ())⟩,
      ⟨fun _ _ _ _ => (.error .notFound, ())⟩, (Site.counting "https://c").uuids, ⟨0, 0⟩⟩
    let id := " \x7b97FA143C-b19e-4b95-9ae9-9ec68ea880ad\x7d "
    let d : Desk Unit Unit := .start () () ⟨"/", [], []⟩
    Time.InWord s.now.seconds ∧
      ∃ after calls event,
        Command.simulateEvent (s.dryPartners c) c id none { d with link := Store.empty }
          = (.ok (), after) ∧
        DrySimulated c id s.now calls after.link event ∧
        event.repository.name = "\x7b97FA143C-b19e-4b95-9ae9-9ec68ea880ad\x7d" ∧
        event.repository.fullName = "apps/\x7b97FA143C-b19e-4b95-9ae9-9ec68ea880ad\x7d" := by
  intro c s id d
  have hnow : Time.InWord s.now.seconds := by decide
  have hid : trim id = "\x7b97FA143C-b19e-4b95-9ae9-9ec68ea880ad\x7d" := by decide +kernel
  have haddress : trimmed c.registry.address = "registry" := by decide +kernel
  have hrepository : trimmed c.registry.repository = "apps" := by decide +kernel
  have htext : Uuid.isText (trim id) = true := by
    rw [hid]
    decide +kernel
  obtain ⟨result, after, calls, hrun, -, -, hsucceeds, hleft, -⟩ :=
    simulateEvent_dry_run s c id none d hnow
  have hok : result = .ok () := by
    refine hsucceeds.mpr ⟨?_, ?_, htext⟩
    · rw [haddress]
      decide
    · rw [hrepository]
      decide
  obtain ⟨event, hevent⟩ := hleft hok
  refine ⟨hnow, after, calls, event, hok ▸ hrun, hevent, hevent.name.trans hid, ?_⟩
  rw [hevent.fullName, hrepository, hid]
  rfl

end Dataspace
