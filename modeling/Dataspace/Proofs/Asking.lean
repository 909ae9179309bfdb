/-
Asking for a description and for a contract.

Each is one request, and a site with the whole offer answers it: the resource is
described as the offer was stored, and an agreement is made on a policy that is
bound to the artifact.  Whether the description can be read is decided by how deep
the policy is nested.
-/
import Dataspace.Proofs.Described
import Dataspace.Proofs.Placing

namespace Dataspace

open Text

/-! ## Descriptions and contracts, as one request each -/

@[simp] theorem Request.url_withQueryIf (r : Request) (key : String) (value : Option String) :
    (r.withQueryIf key value).url = r.url := by
  cases value with
  | none => rfl
  | some v => rfl

namespace Client

variable {σ : Type} {c : Client σ} {s t : σ} {response : Response}

/-- The request for the description of an element. -/
def describeRequest (base : String) (recipient element : Option String) : Request :=
  ((Request.post (base ++ descriptionPath) none).withQueryIf "recipient" recipient).withQueryIf
    "elementId" element

theorem url_describeRequest_ne_contract (base : String) (recipient element : Option String) :
    (describeRequest base recipient element).url ≠ base ++ contractPath := by
  have hdifferent : descriptionPath.toList ≠ contractPath.toList := by decide +kernel
  have hurl : (describeRequest base recipient element).url = base ++ descriptionPath := by
    simp only [describeRequest, Request.url_withQueryIf]
    rfl
  intro h
  rw [hurl] at h
  have hsame := congrArg String.toList h
  rw [String.toList_append, String.toList_append] at hsame
  exact hdifferent (List.append_cancel_left hsame)

/-- The value that the body of a description is the text of. -/
def describedValue (base : String) (response : Response) : Except ConnectorError Json :=
  match Json.parseBytes? response.body with
  | some v => .ok v
  | none => .error (.responseFormat (base ++ descriptionPath) .descriptionNotJson)

theorem describe_eq {recipient element : Option String}
    (h : c.transport.send (describeRequest c.baseUrl recipient element) s = (.ok response, t))
    (hsuccess : response.isSuccess = true) :
    c.describe recipient element s = (describedValue c.baseUrl response, t) := by
  have hexecute : c.execute (describeRequest c.baseUrl recipient element) s
      = (.ok response, t) := by
    rw [execute_eq h, accept_of_isSuccess hsuccess]
  refine (bind_ok hexecute).trans ?_
  unfold describedValue
  split
  · rename_i v hv
    simp only [hv]
    rfl
  · rename_i hnone
    simp only [hnone]
    rfl

theorem negotiate_eq {recipient : Option String} {resource artifact : Handle} {download : Bool}
    {policy : Json}
    (h : c.transport.send (c.contractRequest recipient resource artifact download policy) s
      = (.ok response, t)) (hsuccess : response.isSuccess = true) :
    c.negotiate recipient resource artifact download policy s
      = (.ok ⟨response.status, response.text⟩, t) := by
  refine bind_ok (a := response) ?_
  rw [execute_eq h, accept_of_isSuccess hsuccess]

end Client

section Site

variable {site : Site} {s : Store}

/-- A path of two segments is looked up by them. -/
theorem Route.find_post (base : String) {rest first second : String}
    (hkeep : withoutSlashes rest = rest) (hsplit : split '/' rest = [first, second]) :
    find base .post (base ++ ("/api/" ++ rest))
      = ofPost (base ++ ("/api/" ++ rest)) [first, second] := by
  rw [find, segments?_append hkeep, hsplit]

theorem Route.find_description (base : String) :
    find base .post (base ++ descriptionPath) = .ok .describe := by
  have hpath : descriptionPath = "/api/" ++ "ids/description" := by decide +kernel
  have hsplit : split '/' "ids/description" = ["ids", "description"] := by decide +kernel
  rw [hpath, find_post base (by decide +kernel) hsplit]
  rfl

theorem Route.find_contract (base : String) :
    find base .post (base ++ contractPath) = .ok .contract := by
  have hpath : contractPath = "/api/" ++ "ids/contract" := by decide +kernel
  have hsplit : split '/' "ids/contract" = ["ids", "contract"] := by decide +kernel
  rw [hpath, find_post base (by decide +kernel) hsplit]
  rfl

/-- The connector looks for the element in the query and for nothing else. -/
theorem Site.reply_describeRequest (site : Site) (s : Store) (recipient element : Option String) :
    site.reply (Client.describeRequest site.baseUrl recipient element) s
      = site.describe element s := by
  have hroute : Route.find site.baseUrl .post
      (Client.describeRequest site.baseUrl recipient element).url = .ok .describe := by
    simp only [Client.describeRequest, Request.url_withQueryIf]
    exact Route.find_description site.baseUrl
  have helement : (Client.describeRequest site.baseUrl recipient element).parameter? "elementId"
      = element := by
    cases recipient <;> cases element <;> rfl
  have hmethod : (Client.describeRequest site.baseUrl recipient element).method = .post := by
    cases recipient <;> cases element <;> rfl
  rw [reply, hmethod, hroute]
  exact congrArg (site.describe · s) helement

/-- A stored resource is described to whoever asks. -/
theorem Site.send_describe {uri : String} (h : s.kindOf? uri = some .resource)
    (recipient : Option String) :
    site.transport.send (Client.describeRequest site.baseUrl recipient (some uri)) s
      = (.ok (.ofJson 200 (s.describeResource uri)), s) := by
  have hdescribe : site.describe (some uri) s = .ok (.ofJson 200 (s.describeResource uri), s) := by
    simp only [describe, h]
    rfl
  exact send_of_reply ((site.reply_describeRequest s recipient (some uri)).trans hdescribe)

/-- The agreement that is made on a policy. -/
def Site.agreement (site : Site) (policy : Json) (s : Store) : Json :=
  .object [("@type", .str "ids:ContractAgreement"),
    ("@id", .str (site.nextUri "agreements" s)), ("ids:permission", .arr [policy])]

theorem Site.permission_agreement (site : Site) (policy : Json) (s : Store) :
    (site.agreement policy s).get? "ids:permission" = some (.arr [policy]) :=
  Keyed.lookup_insert_self ..

/-- The store with an agreement on a policy. -/
def Site.agree (site : Site) (policy : Json) (s : Store) : Store :=
  { s.takeUuid with agreements := s.agreements ++ [site.agreement policy s] }

/-- What becomes of a contract request: the resource is looked up first, then the artifact, and then
the target of the policy is compared with the artifact. -/
theorem Site.reply_contractRequest (site : Site) (s : Store) (recipient : Option String)
    (resource artifact : Handle) (download : Bool) (policy : Json) :
    site.reply (site.client.contractRequest recipient resource artifact download policy) s
      = if (s.entity? resource.uri).isNone then .error (.notFound resource.uri)
        else if (s.entity? artifact.uri).isNone then .error (.notFound artifact.uri)
        else if (policy.get? "ids:target").bind Json.asString? = some artifact.uri then
          .ok (.ofJson 200 (site.agreement policy s), site.agree policy s)
        else .error .otherTarget := by
  have hroute : site.reply (site.client.contractRequest recipient resource artifact download
      policy) s = site.contract (site.client.contractRequest recipient resource artifact download
        policy) s := by
    cases recipient <;> exact congrArg (Except.bind · _) (Route.find_contract site.baseUrl)
  have hresources : (site.client.contractRequest recipient resource artifact download
      policy).parameter? "resourceIds" = some resource.uri := by
    cases recipient <;> rfl
  have hartifacts : (site.client.contractRequest recipient resource artifact download
      policy).parameter? "artifactIds" = some artifact.uri := by
    cases recipient <;> rfl
  have hbody : (site.client.contractRequest recipient resource artifact download
      policy).body = some (.arr [policy]) := by
    cases recipient <;> rfl
  rw [hroute]
  simp only [contract, hresources, hartifacts, hbody, requestedPolicy]
  split
  · rfl
  · split
    · rfl
    · split <;> rfl

/-- An agreement is made on a policy whose target is the artifact. -/
theorem Site.send_contract {resource artifact : Handle} {policy : Json}
    (hresource : (s.entity? resource.uri).isSome = true)
    (hartifact : (s.entity? artifact.uri).isSome = true)
    (htarget : policy.get? "ids:target" = some (.str artifact.uri)) (recipient : Option String)
    (download : Bool) :
    site.transport.send
        (site.client.contractRequest recipient resource artifact download policy) s
      = (.ok (.ofJson 200 (site.agreement policy s)), site.agree policy s) := by
  have hbound : (policy.get? "ids:target").bind Json.asString? = some artifact.uri := by
    rw [htarget]
    rfl
  refine send_of_reply ((site.reply_contractRequest s _ _ _ _ _).trans ?_)
  simp only [Option.isNone_eq_false_iff.mpr hresource, Option.isNone_eq_false_iff.mpr hartifact,
    Bool.false_eq_true, if_false, if_pos hbound]

end Site

/-! ## Bound policies -/

namespace Json

variable {v w value : Json} {key : String}

/-- An object in which a key is bound has its other members still. -/
theorem get?_of_set? (h : v.set? key value = some w) (other : String) :
    w.get? other = if other = key then some value else v.get? other := by
  cases v with
  | obj members =>
      cases h
      exact Keyed.lookup_insert key other value members
  | _ => cases h

theorem isObject_of_set? (h : v.set? key value = some w) : v.isObject = true := by
  cases v with
  | obj members => rfl
  | _ => cases h

theorem not_isObject_of_set? (h : v.set? key value = none) : ¬ v.isObject = true := by
  cases v with
  | obj members => cases h
  | _ => exact Bool.noConfusion

end Json

/-! ## The description of an offer that is there -/

namespace OfferGraph.Stored

variable {g : OfferGraph} {t : OfferTemplate} {contract : ContractPayload} {s : Store}

theorem send_describe (h : g.Stored t contract s) (site : Site) (recipient : String) :
    site.transport.send
        (Client.describeRequest site.baseUrl (some recipient) (some g.resource.uri)) s
      = (.ok (.ofJson 200 (g.description t.rule.policy)), s) := by
  obtain ⟨-, hresource, -⟩ := Offered.forall_all.mp h.entity?
  have hkind : s.kindOf? g.resource.uri = some .resource :=
    congrArg (Option.map Entity.kind) hresource
  rw [← h.describeResource]
  exact site.send_describe hkind (some recipient)

/-- An agreement is made on the policy that is bound to the artifact. -/
theorem send_contract (h : g.Stored t contract s) (site : Site) {policy bound : Json}
    (hbound : policy.set? "ids:target" (.str g.artifact.uri) = some bound) (recipient : String)
    (download : Bool) :
    site.transport.send
        (site.client.contractRequest (some recipient) g.resource g.artifact download bound) s
      = (.ok (.ofJson 200 (site.agreement bound s)),
          { s.takeUuid with agreements := s.agreements ++ [site.agreement bound s] }) := by
  obtain ⟨-, hresource, -, -, -, hartifact, -⟩ := Offered.forall_all.mp h.entity?
  have htarget : bound.get? "ids:target" = some (.str g.artifact.uri) := by
    rw [Json.get?_of_set? hbound, if_pos rfl]
  exact Site.send_contract (Option.isSome_of_eq_some hresource)
    (Option.isSome_of_eq_some hartifact) htarget (some recipient) download

/-- Agreements are kept beside the offer. -/
theorem with_agreements (h : g.Stored t contract s) (agreements : List Json) :
    g.Stored t contract { s.takeUuid with agreements := agreements } :=
  ⟨h.endpoints, h.distinct, h.entities, h.links⟩

end OfferGraph.Stored

theorem Response.body_ofJson (status : Nat) (v : Json) :
    (ofJson status v).body = Utf8.encode v.compact :=
  rfl

/-- What the description of an offered resource is read as. -/
theorem OfferGraph.describedValue (g : OfferGraph) {p : RulePayload} (hfloats : p.FloatsReadBack)
    (base : String) :
    Client.describedValue base (.ofJson 200 (g.description p.policy))
      = if p.policy.depth ≤ 123 then .ok (g.description p.policy)
        else .error (.responseFormat (base ++ descriptionPath) .descriptionNotJson) := by
  have hdepth : p.policy.depth + 4 ≤ Json.maxDepth ↔ p.policy.depth ≤ 123 := by
    unfold Json.maxDepth
    omega
  rw [Client.describedValue, Response.body_ofJson,
    g.parseBytes?_description p.fits_policy.ordered hfloats.numbers]
  simp only [hdepth]
  by_cases hread : p.policy.depth ≤ 123
  · simp only [if_pos hread]
  · simp only [if_neg hread]

end Dataspace
