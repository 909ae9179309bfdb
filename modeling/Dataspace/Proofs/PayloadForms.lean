/-
The forms of payloads and offer templates.

What a payload leaves out comes back as the example offer has it, and everything
else comes back as it was.  So a payload is read as itself if and only if nothing was
left out, or the example leaves out the same; and since nothing is left out of what
was read, the second time changes nothing.  Catalogs and rules leave out only what
their examples do not have either.  A template writes all its members and is read
member by member.
-/
import Dataspace.Payload.Offer
import Dataspace.Proofs.RecordForm

namespace Dataspace

open Json

/-! ## Forms -/

/-- What is written of a value is read, from the JSON value and from its text, as `back` says; what
was read is written and read as itself. -/
structure Form {α : Type} (write : α → Json) (read : Json → Option α) (back : α → α) : Prop where
  reads : ∀ a, read (write a) = some (back a)
  reads_text : ∀ a, (parse? (write a).compact).bind read = some (back a)
  twice : ∀ a, (read (write a)).bind (fun b => read (write b)) = read (write a)

/-- A form that is an object without `null` members. -/
structure MemberForm {α : Type} (write : α → Json) (read : Json → Option α) (back : α → α) : Prop
    extends Form write read back where
  members : ∀ a, ∃ members, write a = .obj members ∧ ∀ m ∈ members, m.2 ≠ .null

section Forms

variable {α : Type} {write : α → Json} {read : Json → Option α} {back : α → α}

theorem Form.of_textual (hread : ∀ a, read (write a) = some (back a))
    (htext : ∀ a, Textual maxDepth (write a)) (hback : ∀ a, back (back a) = back a) :
    Form write read back where
  reads := hread
  reads_text a := by
    rw [(htext a).parse?, Option.bind_some, hread]
  twice a := by
    rw [hread, Option.bind_some, hread, hback]

end Forms

/-- The record is written as a list of named values, without `null`, and is read with `back` for what
was left out. -/
structure Listed {α : Type} (names : List String) (values : α → List (Option Json))
    (write : α → Json) (read : Json → Option α) (back : α → α) : Prop where
  written : ∀ a, write a = .object (present names (values a))
  reads : ∀ a, read (write a) = some (back a)
  members : ∀ a, ∀ value ∈ values a, IsMember 1 value
  stable : ∀ a, back (back a) = back a

namespace Listed

variable {α : Type} {names : List String} {values : α → List (Option Json)}
  {write : α → Json} {read : Json → Option α} {back : α → α}

theorem textual (h : Listed names values write read back) (a : α) : Textual 2 (write a) := by
  rw [h.written]
  exact .present fun v hv => (h.members a _ hv v rfl).2

theorem memberForm (h : Listed names values write read back) : MemberForm write read back where
  toForm := .of_textual h.reads (fun a => (h.textual a).mono (by decide)) h.stable
  members a := by
    rw [h.written]
    exact object_present_without_null fun hnull => (h.members a _ hnull .null rfl).1 rfl

end Listed

/-! ## Fields of payloads -/

theorem withDefault_text (default s : Option String) :
    withDefault text? default (s.map .str) = some (s.or default) := by
  have hread : ∀ s, asString? (.str s) = some s := fun _ => rfl
  exact withDefault_optional hread (fun _ h => nomatch h) default s

theorem EndpointPayload.port?_portNumber (n : UInt16) : port? (portNumber n) = some n := by
  have hread : natBelow 0x10000 (portNumber n) = some n.toNat := by
    have hbound := n.toNat_lt
    simp only [natBelow, portNumber, nat, asIntWithin?, asInt?, Option.filter]
    rw [if_pos (by simp; omega)]
    rfl
  rw [port?, hread, Option.map_some, UInt16.ofNat_toNat]

theorem withDefault_port (default n : Option UInt16) :
    withDefault (optional EndpointPayload.port?) default (n.map EndpointPayload.portNumber)
      = some (n.or default) :=
  withDefault_optional EndpointPayload.port?_portNumber (fun _ h => nomatch h) default n

theorem isMember_text (s : Option String) : IsMember 1 (s.map .str) :=
  .map .str s

theorem isMember_port (n : Option UInt16) : IsMember 1 (n.map EndpointPayload.portNumber) := by
  refine .map ?_ n
  rintro n _ ⟨⟩
  refine ⟨(fun h => nomatch h), .int ?_⟩
  have hbound := n.toNat_lt
  constructor <;> omega

/-! ## Payloads -/

namespace CatalogPayload

def values (p : CatalogPayload) : List (Option Json) :=
  [p.title.map .str, p.description.map .str]

theorem written (p : CatalogPayload) : p.toJson = .object (present memberNames p.values) := by
  simp only [toJson, memberIf_eq_present, present_append]
  rfl

theorem reads (p : CatalogPayload) : ofJson? p.toJson = some p := by
  rw [written, ofJson?, fields?_present (by decide) rfl]
  simp only [values, Option.bind_eq_bind, Option.bind_some, withDefault_text, sample, Option.or_none]
  rfl

theorem listed : Listed memberNames values toJson ofJson? id where
  written := written
  reads := reads
  members p := by
    simp only [values, List.forall_mem_cons]
    exact ⟨isMember_text _, isMember_text _, List.forall_mem_nil _⟩
  stable _ := rfl

end CatalogPayload

namespace ResourcePayload

def values (p : ResourcePayload) : List (Option Json) :=
  [p.title.map .str, p.description.map .str, textsValue p.keywords, p.publisher.map .str,
   p.sovereign.map .str, p.language.map .str, p.license.map .str, p.paymentMethod.map .str]

/-- The payload with the example's values for the fields that it leaves out. -/
def completed (p : ResourcePayload) : ResourcePayload where
  title := p.title.or sample.title
  description := p.description.or sample.description
  keywords := nonEmptyOr sample.keywords p.keywords
  publisher := p.publisher.or sample.publisher
  sovereign := p.sovereign.or sample.sovereign
  language := p.language.or sample.language
  license := p.license.or sample.license
  paymentMethod := p.paymentMethod.or sample.paymentMethod

theorem written (p : ResourcePayload) : p.toJson = .object (present memberNames p.values) := by
  simp only [toJson, memberIf_eq_present, textsIf_eq_present, List.append_assoc]
  simp only [present_append]
  rfl

theorem reads (p : ResourcePayload) : ofJson? p.toJson = some p.completed := by
  rw [written, ofJson?, fields?_present (by decide) rfl]
  simp only [values, Option.bind_eq_bind, Option.bind_some, withDefault_text, textList?,
    withDefault_texts]
  rfl

theorem completed_completed (p : ResourcePayload) : p.completed.completed = p.completed := by
  simp only [completed, Option.or_assoc, Option.or_self, nonEmptyOr_self]

theorem listed : Listed memberNames values toJson ofJson? completed where
  written := written
  reads := reads
  members p := by
    simp only [values, List.forall_mem_cons]
    exact ⟨isMember_text _, isMember_text _, .texts _, isMember_text _, isMember_text _,
      isMember_text _, isMember_text _, isMember_text _, List.forall_mem_nil _⟩
  stable := completed_completed

/-- Nothing is left out. -/
def Full (p : ResourcePayload) : Prop :=
  p.title ≠ none ∧ p.description ≠ none ∧ p.keywords ≠ [] ∧ p.publisher ≠ none ∧
    p.sovereign ≠ none ∧ p.language ≠ none ∧ p.license ≠ none ∧ p.paymentMethod ≠ none

theorem completed_eq_self_iff (p : ResourcePayload) : p.completed = p ↔ p.Full := by
  obtain ⟨title, description, keywords, publisher, sovereign, language, license, payment⟩ := p
  simp only [completed, sample, Full, mk.injEq, or_some_eq_self_iff, nonEmptyOr_eq_self_iff]

end ResourcePayload

namespace RepresentationPayload

def values (p : RepresentationPayload) : List (Option Json) :=
  [p.title.map .str, p.description.map .str, p.language.map .str, p.runtimeEnvironment.map .str,
   p.distributionService.map .str]

/-- The payload with the example's values for the fields that it leaves out. -/
def completed (p : RepresentationPayload) : RepresentationPayload where
  title := p.title.or sample.title
  description := p.description.or sample.description
  language := p.language.or sample.language
  runtimeEnvironment := p.runtimeEnvironment.or sample.runtimeEnvironment
  distributionService := p.distributionService.or sample.distributionService

theorem written (p : RepresentationPayload) : p.toJson = .object (present memberNames p.values) := by
  simp only [toJson, memberIf_eq_present, List.append_assoc]
  simp only [present_append]
  rfl

theorem reads (p : RepresentationPayload) : ofJson? p.toJson = some p.completed := by
  rw [written, ofJson?, fields?_present (by decide) rfl]
  simp only [values, Option.bind_eq_bind, Option.bind_some, withDefault_text]
  rfl

theorem completed_completed (p : RepresentationPayload) : p.completed.completed = p.completed := by
  simp only [completed, Option.or_assoc, Option.or_self]

theorem listed : Listed memberNames values toJson ofJson? completed where
  written := written
  reads := reads
  members p := by
    simp only [values, List.forall_mem_cons]
    exact ⟨isMember_text _, isMember_text _, isMember_text _, isMember_text _, isMember_text _,
      List.forall_mem_nil _⟩
  stable := completed_completed

/-- Nothing is left out. -/
def Full (p : RepresentationPayload) : Prop :=
  p.title ≠ none ∧ p.description ≠ none ∧ p.language ≠ none ∧ p.runtimeEnvironment ≠ none ∧
    p.distributionService ≠ none

theorem completed_eq_self_iff (p : RepresentationPayload) : p.completed = p ↔ p.Full := by
  obtain ⟨title, description, language, environment, service⟩ := p
  simp only [completed, sample, Full, mk.injEq, or_some_eq_self_iff]

end RepresentationPayload

namespace AppPayload

def values (p : AppPayload) : List (Option Json) :=
  [p.title.map .str, p.description.map .str, p.docs.map .str, p.environmentVariables.map .str,
   p.storageConfig.map .str, textsValue p.supportedUsagePolicies]

/-- The payload with the example's values for the fields that it leaves out. -/
def completed (p : AppPayload) : AppPayload where
  title := p.title.or sample.title
  description := p.description.or sample.description
  docs := p.docs.or sample.docs
  environmentVariables := p.environmentVariables.or sample.environmentVariables
  storageConfig := p.storageConfig.or sample.storageConfig
  supportedUsagePolicies := nonEmptyOr sample.supportedUsagePolicies p.supportedUsagePolicies

theorem written (p : AppPayload) : p.toJson = .object (present memberNames p.values) := by
  simp only [toJson, memberIf_eq_present, textsIf_eq_present, List.append_assoc]
  simp only [present_append]
  rfl

theorem reads (p : AppPayload) : ofJson? p.toJson = some p.completed := by
  rw [written, ofJson?, fields?_present (by decide) rfl]
  simp only [values, Option.bind_eq_bind, Option.bind_some, withDefault_text, textList?,
    withDefault_texts]
  rfl

theorem completed_completed (p : AppPayload) : p.completed.completed = p.completed := by
  simp only [completed, Option.or_assoc, Option.or_self, nonEmptyOr_self]

theorem listed : Listed memberNames values toJson ofJson? completed where
  written := written
  reads := reads
  members p := by
    simp only [values, List.forall_mem_cons]
    exact ⟨isMember_text _, isMember_text _, isMember_text _, isMember_text _, isMember_text _,
      .texts _, List.forall_mem_nil _⟩
  stable := completed_completed

/-- Nothing is left out. -/
def Full (p : AppPayload) : Prop :=
  p.title ≠ none ∧ p.description ≠ none ∧ p.docs ≠ none ∧ p.environmentVariables ≠ none ∧
    p.storageConfig ≠ none ∧ p.supportedUsagePolicies ≠ []

theorem completed_eq_self_iff (p : AppPayload) : p.completed = p ↔ p.Full := by
  obtain ⟨title, description, docs, environment, storage, policies⟩ := p
  simp only [completed, sample, Full, mk.injEq, or_some_eq_self_iff, nonEmptyOr_eq_self_iff]

end AppPayload

namespace EndpointPayload

def values (p : EndpointPayload) : List (Option Json) :=
  [p.title.map .str, p.description.map .str, p.location.map .str, p.mediaType.map .str,
   p.port.map portNumber, p.protocol.map .str, p.role.map .str, p.docs.map .str, p.info.map .str,
   p.path.map .str]

/-- The payload with the example's values for the fields that it leaves out. -/
def completed (p : EndpointPayload) : EndpointPayload where
  title := p.title.or sample.title
  description := p.description.or sample.description
  location := p.location.or sample.location
  mediaType := p.mediaType.or sample.mediaType
  port := p.port.or sample.port
  protocol := p.protocol.or sample.protocol
  role := p.role.or sample.role
  docs := p.docs.or sample.docs
  info := p.info.or sample.info
  path := p.path.or sample.path

theorem written (p : EndpointPayload) : p.toJson = .object (present memberNames p.values) := by
  simp only [toJson, memberIf_eq_present, List.append_assoc]
  simp only [present_append]
  rfl

theorem reads (p : EndpointPayload) : ofJson? p.toJson = some p.completed := by
  rw [written, ofJson?, fields?_present (by decide) rfl]
  simp only [values, Option.bind_eq_bind, Option.bind_some, withDefault_text,
    withDefault_port]
  rfl

theorem completed_completed (p : EndpointPayload) : p.completed.completed = p.completed := by
  simp only [completed, Option.or_assoc, Option.or_self]

theorem listed : Listed memberNames values toJson ofJson? completed where
  written := written
  reads := reads
  members p := by
    simp only [values, List.forall_mem_cons]
    exact ⟨isMember_text _, isMember_text _, isMember_text _, isMember_text _, isMember_port _,
      isMember_text _, isMember_text _, isMember_text _, isMember_text _, isMember_text _,
      List.forall_mem_nil _⟩
  stable := completed_completed

/-- Nothing is left out. -/
def Full (p : EndpointPayload) : Prop :=
  p.title ≠ none ∧ p.description ≠ none ∧ p.location ≠ none ∧ p.mediaType ≠ none ∧ p.port ≠ none ∧
    p.protocol ≠ none ∧ p.role ≠ none ∧ p.docs ≠ none ∧ p.info ≠ none ∧ p.path ≠ none

theorem completed_eq_self_iff (p : EndpointPayload) : p.completed = p ↔ p.Full := by
  obtain ⟨title, description, location, mediaType, port, protocol, role, docs, info, path⟩ := p
  simp only [completed, sample, Full, mk.injEq, or_some_eq_self_iff]

end EndpointPayload

namespace ArtifactPayload

def values (p : ArtifactPayload) : List (Option Json) :=
  [some (.str p.title), some (.str p.description), some (.str p.value)]

theorem listed : Listed memberNames values toJson ofJson? id where
  written _ := rfl
  reads p := by
    have hwritten : p.toJson = .object (present memberNames p.values) := rfl
    rw [hwritten, ofJson?, fields?_present (by decide) rfl]
    rfl
  members p := by
    simp only [values, List.forall_mem_cons]
    exact ⟨.str _, .str _, .str _, List.forall_mem_nil _⟩
  stable _ := rfl

end ArtifactPayload

namespace ContractPayload

def values (p : ContractPayload) : List (Option Json) :=
  [some (.str p.start), some (.str p.finish)]

theorem listed : Listed memberNames values toJson ofJson? id where
  written _ := rfl
  reads p := by
    have hwritten : p.toJson = .object (present memberNames p.values) := rfl
    rw [hwritten, ofJson?, fields?_present (by decide) rfl]
    rfl
  members p := by
    simp only [values, List.forall_mem_cons]
    exact ⟨.str _, .str _, List.forall_mem_nil _⟩
  stable _ := rfl

end ContractPayload

namespace RulePayload

def values (p : RulePayload) : List (Option Json) :=
  [p.title.map .str, p.description.map .str, some (.str p.value)]

theorem written (p : RulePayload) : p.toJson = .object (present memberNames p.values) := by
  have hvalue : [("value", Json.str p.value)] = present ["value"] [some (.str p.value)] := rfl
  simp only [toJson, memberIf_eq_present, hvalue, List.append_assoc]
  simp only [present_append]
  rfl

theorem reads (p : RulePayload) : ofJson? p.toJson = some p := by
  rw [written, ofJson?, fields?_present (by decide) rfl]
  simp only [values, Option.bind_eq_bind, Option.bind_some, withDefault_text, sample, Option.or_none]
  rfl

theorem listed : Listed memberNames values toJson ofJson? id where
  written := written
  reads := reads
  members p := by
    simp only [values, List.forall_mem_cons]
    exact ⟨isMember_text _, isMember_text _, .str _, List.forall_mem_nil _⟩
  stable _ := rfl

end RulePayload

/-! ## Templates -/

namespace OfferTemplate

def values (t : OfferTemplate) : List (Option Json) :=
  [some t.catalog.toJson, some t.resource.toJson, some t.representation.toJson, some t.app.toJson,
   some (.arr (t.endpoints.map EndpointPayload.toJson)), some t.artifact.toJson,
   some (.option ContractPayload.toJson t.contract), some t.rule.toJson]

/-- The template with each of its payloads completed. -/
def completed (t : OfferTemplate) : OfferTemplate :=
  { t with
    resource := t.resource.completed
    representation := t.representation.completed
    app := t.app.completed
    endpoints := t.endpoints.map EndpointPayload.completed }

/-- A contract that is left out is written as `null`. -/
theorem optional_contract (contract : Option ContractPayload) :
    optional ContractPayload.ofJson? (.option ContractPayload.toJson contract) = some contract := by
  cases contract with
  | none => rfl
  | some contract => exact congrArg (Option.map some) (ContractPayload.listed.reads contract)

theorem reads (t : OfferTemplate) : ofJson? t.toJson = some t.completed := by
  have hwritten : t.toJson = .object (present memberNames t.values) := rfl
  rw [hwritten, ofJson?, fields?_present (by decide) rfl]
  simp only [values, Option.bind_eq_bind, Option.bind_some, withDefault,
    CatalogPayload.listed.reads, ResourcePayload.reads, RepresentationPayload.reads,
    AppPayload.reads, listOf_map EndpointPayload.reads, ArtifactPayload.listed.reads,
    optional_contract, RulePayload.reads]
  rfl

theorem textual_contract (contract : Option ContractPayload) :
    Textual 2 (.option ContractPayload.toJson contract) := by
  cases contract with
  | none => exact .null
  | some contract => exact ContractPayload.listed.textual contract

theorem textual (t : OfferTemplate) : Textual 4 t.toJson := by
  have hendpoints : Textual 3 (.arr (t.endpoints.map EndpointPayload.toJson)) := by
    refine .arr ?_
    intro v hv
    obtain ⟨e, -, rfl⟩ := List.mem_map.mp hv
    exact EndpointPayload.listed.textual e
  have hall : ∀ value ∈ t.values, ∀ v, value = some v → Textual 3 v := by
    simp only [values, List.forall_mem_cons, Option.some.injEq, forall_eq']
    exact ⟨(CatalogPayload.listed.textual _).mono (Nat.le_succ 2),
      (ResourcePayload.listed.textual _).mono (Nat.le_succ 2),
      (RepresentationPayload.listed.textual _).mono (Nat.le_succ 2),
      (AppPayload.listed.textual _).mono (Nat.le_succ 2), hendpoints,
      (ArtifactPayload.listed.textual _).mono (Nat.le_succ 2),
      (textual_contract _).mono (Nat.le_succ 2), (RulePayload.listed.textual _).mono (Nat.le_succ 2),
      List.forall_mem_nil _⟩
  have hwritten : t.toJson = .object (present memberNames t.values) := rfl
  rw [hwritten]
  exact .present fun v hv => hall _ hv v rfl

theorem completed_completed (t : OfferTemplate) : t.completed.completed = t.completed := by
  simp only [completed, ResourcePayload.completed_completed,
    RepresentationPayload.completed_completed, AppPayload.completed_completed, List.map_map,
    Function.comp_def, EndpointPayload.completed_completed]

theorem form : Form toJson ofJson? completed :=
  .of_textual reads (fun t => (textual t).mono (by decide)) completed_completed

/-- Nothing is left out of the resource, the representation, the app and the endpoints. -/
def Full (t : OfferTemplate) : Prop :=
  t.resource.Full ∧ t.representation.Full ∧ t.app.Full ∧ ∀ e ∈ t.endpoints, e.Full

theorem completed_eq_self_iff (t : OfferTemplate) : t.completed = t ↔ t.Full := by
  have hendpoints : t.endpoints.map EndpointPayload.completed = t.endpoints
      ↔ ∀ e ∈ t.endpoints, e.Full := by
    have hmap : t.endpoints.map EndpointPayload.completed = t.endpoints.map id
        ↔ ∀ e ∈ t.endpoints, e.completed = id e := List.map_inj_left
    rw [List.map_id] at hmap
    rw [hmap]
    exact ⟨fun h e he => e.completed_eq_self_iff.mp (h e he),
      fun h e he => e.completed_eq_self_iff.mpr (h e he)⟩
  obtain ⟨catalog, resource, representation, app, endpoints, artifact, contract, rule⟩ := t
  simp only [completed, Full, mk.injEq, true_and, and_true, resource.completed_eq_self_iff,
    representation.completed_eq_self_iff, app.completed_eq_self_iff, hendpoints]

theorem not_full_negotiation : ¬ negotiation.Full := by
  rintro ⟨⟨-, -, -, hpublisher, -⟩, -⟩
  exact hpublisher rfl

end OfferTemplate

/-- What is written of a payload or a template is read, from the value and from its text, with the
values of the example for all that was left out, and of nothing else; what was read is written and
read as itself.  So catalogs, artifacts, contracts and rules are always read as they were.  A
template is if and only if nothing is left out of its resource, its representation, its app and its
endpoints, and the template that is negotiated is not.  The form of a payload is an object without
`null` members. -/
theorem payloads_read_back :
    (MemberForm CatalogPayload.toJson CatalogPayload.ofJson? id ∧
      MemberForm ResourcePayload.toJson ResourcePayload.ofJson? ResourcePayload.completed ∧
      MemberForm RepresentationPayload.toJson RepresentationPayload.ofJson?
        RepresentationPayload.completed ∧
      MemberForm AppPayload.toJson AppPayload.ofJson? AppPayload.completed ∧
      MemberForm EndpointPayload.toJson EndpointPayload.ofJson? EndpointPayload.completed ∧
      MemberForm ArtifactPayload.toJson ArtifactPayload.ofJson? id ∧
      MemberForm ContractPayload.toJson ContractPayload.ofJson? id ∧
      MemberForm RulePayload.toJson RulePayload.ofJson? id) ∧
    Form OfferTemplate.toJson OfferTemplate.ofJson? OfferTemplate.completed ∧
    (∀ t : OfferTemplate, OfferTemplate.ofJson? t.toJson = some t ↔ t.Full) ∧
    OfferTemplate.ofJson? OfferTemplate.negotiation.toJson ≠ some .negotiation := by
  have hfull : ∀ t : OfferTemplate, OfferTemplate.ofJson? t.toJson = some t ↔ t.Full := by
    intro t
    rw [t.reads, Option.some.injEq, t.completed_eq_self_iff]
  refine ⟨⟨CatalogPayload.listed.memberForm, ResourcePayload.listed.memberForm,
    RepresentationPayload.listed.memberForm, AppPayload.listed.memberForm,
    EndpointPayload.listed.memberForm, ArtifactPayload.listed.memberForm,
    ContractPayload.listed.memberForm, RulePayload.listed.memberForm⟩,
    OfferTemplate.form, hfull, ?_⟩
  intro hread
  exact OfferTemplate.not_full_negotiation ((hfull _).mp hread)

end Dataspace
