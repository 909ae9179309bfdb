/-
Negotiating a contract by handles.

A contract request that a client makes names both entities and carries one policy, so
three things are left for the connector to find wrong: that the resource is not stored,
that the artifact is not, and that the policy is not bound to the artifact.  Each has its
status, and none leaves a trace.  A policy taken from a description is bound to the
artifact before it is handed over, whatever stood there, so only the first two are left
for it.
-/
import Dataspace.Proofs.Asking

namespace Dataspace

open Text

/-! ## Members of values -/

namespace Json

theorem bind_first?_eq_some_iff {member : Option Json} {first : Json} :
    member.bind first? = some first ↔ ∃ rest, member = some (.arr (first :: rest)) := by
  rcases member with _ | v
  · simp
  · cases v with
    | arr items => cases items <;> simp [first?]
    | _ => simp [first?]

/-- Only an object has members. -/
theorem isObject_of_get? {w member : Json} {key : String} (h : w.get? key = some member) :
    w.isObject = true := by
  cases w with
  | obj members => rfl
  | _ => cases h

end Json

/-! ## Policies in descriptions -/

/-- What is taken from a description is the first permission of the first offer, an object, bound to
the artifact. -/
theorem extractPolicy_ok {description policy : Json} {artifact : Handle}
    (h : extractPolicy description artifact = .ok policy) :
    ∃ offer offers permission permissions,
      description.get? "ids:contractOffer" = some (.arr (offer :: offers)) ∧
      offer.get? "ids:permission" = some (.arr (permission :: permissions)) ∧
      permission.set? "ids:target" (.str artifact.uri) = some policy := by
  unfold extractPolicy at h
  simp only at h
  split at h
  · cases h
  · rename_i offer hoffer
    split at h
    · cases h
    · rename_i permission hpermission
      split at h
      · cases h
      · rename_i bound hbound
        cases h
        obtain ⟨offers, hoffers⟩ := Json.bind_first?_eq_some_iff.mp hoffer
        obtain ⟨permissions, hpermissions⟩ := Json.bind_first?_eq_some_iff.mp hpermission
        exact ⟨offer, offers, permission, permissions, hoffers, hpermissions, hbound⟩

/-! ## The answer, as the client reads it -/

theorem Response.text_ofJson (status : Nat) (v : Json) : (ofJson status v).text = v.compact :=
  Utf8.decodeLossy_encode v.compact

/-- Both entities of a contract request are stored. -/
def Store.HoldsBoth (s : Store) (resource artifact : Handle) : Prop :=
  (s.entity? resource.uri).isSome = true ∧ (s.entity? artifact.uri).isSome = true

namespace Site

variable {s : Store} {resource artifact : Handle} {policy : Json} (site : Site)
  (recipient : Option String) (download : Bool)

theorem negotiate_agreed (hstored : s.HoldsBoth resource artifact)
    (htarget : policy.get? "ids:target" = some (.str artifact.uri)) :
    site.client.negotiate recipient resource artifact download policy s
      = (.ok ⟨200, (site.agreement policy s).compact⟩, site.agree policy s) := by
  have hsend : site.transport.send
      (site.client.contractRequest recipient resource artifact download policy) s
        = (.ok (.ofJson 200 (site.agreement policy s)), site.agree policy s) :=
    send_contract hstored.1 hstored.2 htarget recipient download
  rw [Client.negotiate_eq (c := site.client) hsend rfl, Response.text_ofJson]
  rfl

/-- A refusal is handed on with its status. -/
theorem negotiate_refused {refusal : Refusal}
    (h : site.reply (site.client.contractRequest recipient resource artifact download policy) s
      = .error refusal) :
    site.client.negotiate recipient resource artifact download policy s
      = (.error (.request (site.baseUrl ++ contractPath) refusal.status
          refusal.response.message? refusal.response.text), s) := by
  have hurl : (site.client.contractRequest recipient resource artifact download policy).url
      = site.baseUrl ++ contractPath := by
    cases recipient <;> rfl
  have haccept : Client.accept
      (site.client.contractRequest recipient resource artifact download policy)
      (.ok refusal.response) = .error (.request (site.baseUrl ++ contractPath) refusal.status
        refusal.response.message? refusal.response.text) := by
    rw [Client.accept, if_neg (Bool.eq_false_iff.mp refusal.isSuccess_response), hurl]
    rfl
  refine bind_error ?_
  rw [Client.execute_eq (c := site.client) (send_of_refused h), haccept]

theorem negotiate_missing (policy : Json) (hmissing : ¬ s.HoldsBoth resource artifact) :
    ∃ message body,
    site.client.negotiate recipient resource artifact download policy s
      = (.error (.request (site.baseUrl ++ contractPath) 404 message body), s) := by
  have hreply := site.reply_contractRequest s recipient resource artifact download policy
  cases hresource : (s.entity? resource.uri).isNone with
  | true => exact ⟨_, _, site.negotiate_refused _ _ (hreply.trans (if_pos hresource))⟩
  | false =>
      rw [if_neg (Bool.eq_false_iff.mp hresource)] at hreply
      cases hartifact : (s.entity? artifact.uri).isNone with
      | true => exact ⟨_, _, site.negotiate_refused _ _ (hreply.trans (if_pos hartifact))⟩
      | false =>
          exact absurd ⟨Option.isNone_eq_false_iff.mp hresource,
            Option.isNone_eq_false_iff.mp hartifact⟩ hmissing

theorem negotiate_unbound (hstored : s.HoldsBoth resource artifact)
    (htarget : policy.get? "ids:target" ≠ some (.str artifact.uri)) : ∃ message body,
    site.client.negotiate recipient resource artifact download policy s
      = (.error (.request (site.baseUrl ++ contractPath) 400 message body), s) := by
  have hreply := site.reply_contractRequest s recipient resource artifact download policy
  have hother : ¬ (policy.get? "ids:target").bind Json.asString? = some artifact.uri := by
    rw [Json.bind_asString?_eq_some_iff]
    exact htarget
  simp only [Option.isNone_eq_false_iff.mpr hstored.1, Option.isNone_eq_false_iff.mpr hstored.2,
    Bool.false_eq_true, if_false, if_neg hother] at hreply
  exact ⟨_, _, site.negotiate_refused _ _ hreply⟩

/-- What a negotiation by handles comes to. -/
theorem negotiate_cases (s : Store) (resource artifact : Handle) (policy : Json) :
    (s.HoldsBoth resource artifact ∧ policy.get? "ids:target" = some (.str artifact.uri) ∧
      site.client.negotiate recipient resource artifact download policy s
        = (.ok ⟨200, (site.agreement policy s).compact⟩, site.agree policy s)) ∨
    (¬ (s.HoldsBoth resource artifact ∧ policy.get? "ids:target" = some (.str artifact.uri)) ∧
      ∃ status message body,
        site.client.negotiate recipient resource artifact download policy s
          = (.error (.request (site.baseUrl ++ contractPath) status message body), s) ∧
        (¬ s.HoldsBoth resource artifact → status = 404) ∧
        (s.HoldsBoth resource artifact → status = 400)) := by
  by_cases hstored : s.HoldsBoth resource artifact
  · by_cases htarget : policy.get? "ids:target" = some (.str artifact.uri)
    · exact Or.inl ⟨hstored, htarget, site.negotiate_agreed recipient download hstored htarget⟩
    · obtain ⟨message, body, hrefused⟩ :=
        site.negotiate_unbound recipient download hstored htarget
      exact Or.inr ⟨fun h => htarget h.2, 400, message, body, hrefused,
        fun h => absurd hstored h, fun _ => rfl⟩
  · obtain ⟨message, body, hrefused⟩ :=
      site.negotiate_missing recipient download policy hstored
    exact Or.inr ⟨fun h => hstored h.1, 404, message, body, hrefused, fun _ => rfl,
      fun h => absurd h hstored⟩

end Site

/-! ## Every negotiation -/

/-- A contract is negotiated at the connector that the client talks to, whatever is in store there.
This succeeds if and only if both entities are stored and the policy is an object whose target is
the artifact; then there is one more agreement, on that policy, and nothing else is changed but that
a UUID is taken.  Otherwise nothing is changed, and the request is refused: with 404 if one of the
two is not stored, else with 400.  What is taken from any description for the artifact is accepted
where the two are stored, and is the first permission of its first offer in every member but the
target. -/
theorem negotiate_outcome (site : Site) (s : Store) (recipient : Option String)
    (resource artifact : Handle) (download : Bool) (policy : Json) :
    let negotiate := fun policy =>
      site.client.negotiate recipient resource artifact download policy s
    ((∃ answer, (negotiate policy).1 = .ok answer) ↔ s.HoldsBoth resource artifact ∧
      policy.isObject = true ∧ policy.get? "ids:target" = some (.str artifact.uri)) ∧
    (∀ answer, (negotiate policy).1 = .ok answer → ∃ agreement : Json,
      agreement.get? "ids:permission" = some (.arr [policy]) ∧
      answer = ⟨200, agreement.compact⟩ ∧
      (negotiate policy).2 =
        { s with agreements := s.agreements ++ [agreement], issued := s.issued + 1 }) ∧
    (∀ e, (negotiate policy).1 = .error e → (negotiate policy).2 = s ∧
      ∃ status message body, e = .request (site.baseUrl ++ contractPath) status message body ∧
        (¬ s.HoldsBoth resource artifact → status = 404) ∧
        (s.HoldsBoth resource artifact → status = 400)) ∧
    ∀ description taken, extractPolicy description artifact = .ok taken →
      (s.HoldsBoth resource artifact → ∃ answer, (negotiate taken).1 = .ok answer) ∧
      ∃ offer offers permission permissions,
        description.get? "ids:contractOffer" = some (.arr (offer :: offers)) ∧
        offer.get? "ids:permission" = some (.arr (permission :: permissions)) ∧
        ∀ key, key ≠ "ids:target" → taken.get? key = permission.get? key := by
  intro negotiate
  refine ⟨?_, ?_, ?_, ?_⟩
  · rcases site.negotiate_cases recipient download s resource artifact policy with
      ⟨hstored, htarget, hagreed⟩ | ⟨hnot, status, message, body, hrefused, -⟩
    · exact iff_of_true ⟨_, congrArg Prod.fst hagreed⟩
        ⟨hstored, Json.isObject_of_get? htarget, htarget⟩
    · refine iff_of_false ?_ fun h => hnot ⟨h.1, h.2.2⟩
      rintro ⟨answer, hanswer⟩
      cases (congrArg Prod.fst hrefused).symm.trans hanswer
  · intro answer hanswer
    rcases site.negotiate_cases recipient download s resource artifact policy with
      ⟨-, -, hagreed⟩ | ⟨-, status, message, body, hrefused, -⟩
    · cases (congrArg Prod.fst hagreed).symm.trans hanswer
      exact ⟨site.agreement policy s, site.permission_agreement policy s, rfl,
        congrArg Prod.snd hagreed⟩
    · cases (congrArg Prod.fst hrefused).symm.trans hanswer
  · intro e he
    rcases site.negotiate_cases recipient download s resource artifact policy with
      ⟨-, -, hagreed⟩ | ⟨-, status, message, body, hrefused, hstatus⟩
    · cases (congrArg Prod.fst hagreed).symm.trans he
    · cases (congrArg Prod.fst hrefused).symm.trans he
      exact ⟨congrArg Prod.snd hrefused, status, message, body, rfl, hstatus⟩
  · intro description taken htaken
    obtain ⟨offer, offers, permission, permissions, hoffers, hpermissions, hbound⟩ :=
      extractPolicy_ok htaken
    have hmembers := Json.get?_of_set? hbound
    constructor
    · intro hstored
      have htarget : taken.get? "ids:target" = some (.str artifact.uri) :=
        (hmembers "ids:target").trans (if_pos rfl)
      exact ⟨_, congrArg Prod.fst (site.negotiate_agreed recipient download hstored htarget)⟩
    · refine ⟨offer, offers, permission, permissions, hoffers, hpermissions, ?_⟩
      intro key hkey
      exact (hmembers key).trans (if_neg hkey)

end Dataspace
