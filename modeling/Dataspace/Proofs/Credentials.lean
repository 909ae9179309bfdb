/-
The credentials that an engine is given.

A publisher takes the user name and the password from the settings once, when it is made,
and no call of it changes them.  So it is enough to look at what a publisher is made with:
the settings are asked for like all others, and what is asked for comes without the blanks
around it.  A login therefore gives the configured credentials just when neither has a
blank at an end.
-/
import Dataspace.Proofs.PublisherCalls

namespace Dataspace

open Text

/-- The user name and the password that the engine is given by the call. -/
def EngineCall.credentials? : EngineCall → Option (String × String)
  | login _ username password => some (username, password)
  | _ => none

/-- The credentials that an engine was given, one pair for each login. -/
def MadeCall.credentials (made : List MadeCall) : List (String × String) :=
  (made.map Prod.fst).filterMap EngineCall.credentials?

theorem MadeCall.credentials_append (made more : List MadeCall) :
    credentials (made ++ more) = credentials made ++ credentials more := by
  rw [credentials, List.map_append, List.filterMap_append]
  rfl

/-- What is not blank is there. -/
theorem exists_of_trimmed_ne {value : Option String} (h : trimmed value ≠ "") :
    ∃ text, value = some text ∧ trimmed value = trim text := by
  cases value with
  | none => exact absurd rfl h
  | some text => exact ⟨text, rfl, rfl⟩

/-! ## Calls of a publisher -/

section Visits

variable {p : Publisher} {v : PublisherVisit} {visits : List PublisherVisit}

theorem PublisherTurn.credentials_made (h : PublisherTurn p v) :
    MadeCall.credentials v.made
      = List.replicate ([v.call].count .login) (p.username, p.password) := by
  cases h with
  | refused _ => rfl
  | failed call _ _ | done call _ _ => cases call <;> rfl

/-- Each login that is asked for gives the engine what the publisher was made with. -/
theorem PublisherTurns.credentials_made (h : PublisherTurns p visits) :
    MadeCall.credentials (visits.flatMap PublisherVisit.made) =
      List.replicate ((visits.map PublisherVisit.call).count .login) (p.username, p.password) := by
  induction h with
  | nil => rfl
  | @cons p v rest hturn _ ih =>
      obtain ⟨-, husername, hpassword⟩ := EngineCall.login.inj (hturn.engineCall_left .login)
      rw [List.flatMap_cons, MadeCall.credentials_append, hturn.credentials_made, ih, husername,
        hpassword, List.replicate_append_replicate, ← List.count_append, List.singleton_append,
        List.map_cons]

end Visits

/-- For every publisher that can be made, any engine and any sequence of calls, each login gives the
engine the configured user name and password without the blanks around them, and so it is when an
image is published.  These are the configured ones, character for character, unless a login is asked
for and one of them has a blank at an end. -/
theorem logins_trimmed {registry : RegistrySettings} {image : ImageSettings}
    {resourceId : String} {p : Publisher}
    (h : Publisher.ofSettings registry image resourceId = .ok p) :
    ∃ username password, registry.username = some username ∧ registry.password = some password ∧
      (∀ {η : Type} (e : Engine η) (calls : List PublisherCall) (s : η),
        let given := MadeCall.credentials (Publisher.performAll e.logging calls (p, s, [])).2.2.2
        given = List.replicate (calls.count .login) (trim username, trim password) ∧
        (given = List.replicate (calls.count .login) (username, password) ↔
          .login ∉ calls ∨ (trim username = username ∧ trim password = password))) ∧
      ∀ {η : Type} (e : Engine η) (s : η),
        MadeCall.credentials (publishImage e.logging registry image resourceId (s, [])).2.2 <+:
          [(trim username, trim password)] := by
  obtain ⟨rfl, hfilled⟩ := Publisher.eq_of_ofSettings h
  simp only [PublishSettings.demanded, List.forall_mem_cons] at hfilled
  obtain ⟨-, -, -, -, hname, hword, -⟩ := hfilled
  obtain ⟨username, husername, htrimmed⟩ := exists_of_trimmed_ne hname
  obtain ⟨password, hpassword, htrimmed'⟩ := exists_of_trimmed_ne hword
  refine ⟨username, password, husername, hpassword, ?_, ?_⟩
  · intro η e calls s given
    have hgiven : given = List.replicate (calls.count .login) (trim username, trim password) := by
      obtain ⟨visits, t, hcalls, hturns, -, hlogged⟩ := Publisher.performAll_turns e calls _ s
      show MadeCall.credentials (Publisher.performAll e.logging calls (_, s, [])).2.2.2 = _
      rw [hlogged [], ← htrimmed, ← htrimmed', ← hcalls]
      exact hturns.credentials_made
    refine ⟨hgiven, ?_⟩
    rw [hgiven, List.replicate_inj, Prod.mk.injEq, List.count_eq_zero]
    exact and_iff_right rfl
  · intro η e s
    obtain ⟨result, t, made, -, hlogged, houtcome⟩ :=
      publishImage_outcome e registry image resourceId s
    rw [hlogged, ← htrimmed, ← htrimmed']
    exact houtcome.calls.filterMap EngineCall.credentials?

/-- Blanks around a password. -/
theorem logins_trimmed_password :
    let registry : RegistrySettings := ⟨some "r.example.org", some "apps", some "u", some " p "⟩
    let image : ImageSettings := ⟨some "app:1", none⟩
    let p : Publisher := ⟨"app:1", ⟨"r.example.org", "apps", "7", none⟩, "u", "p", none, false⟩
    Publisher.ofSettings registry image "7" = .ok p ∧
      ∃ username password, registry.username = some username ∧ registry.password = some password ∧
        MadeCall.credentials (Publisher.performAll Engine.idle.logging [.login] (p, (), [])).2.2.2
          = [(trim username, trim password)] := by
  intro registry image p
  have hsettings : Publisher.ofSettings registry image "7" = .ok p := by
    rfl
  obtain ⟨username, password, husername, hpassword, hcalls, -⟩ := logins_trimmed hsettings
  exact ⟨hsettings, username, password, husername, hpassword, (hcalls Engine.idle [.login] ()).1⟩

/-- So an engine may be given another password than the configured one. -/
theorem logins_not_as_configured :
    ¬ ∀ (registry : RegistrySettings) (image : ImageSettings) (resourceId : String) (p : Publisher)
        (username password : String), Publisher.ofSettings registry image resourceId = .ok p →
      registry.username = some username → registry.password = some password →
      ∀ given ∈ MadeCall.credentials
          (Publisher.performAll Engine.idle.logging [.login] (p, (), [])).2.2.2,
        given = (username, password) := by
  intro hall
  have hgiven := hall ⟨some "r.example.org", some "apps", some "u", some " p "⟩ ⟨some "app:1", none⟩
    "7" ⟨"app:1", ⟨"r.example.org", "apps", "7", none⟩, "u", "p", none, false⟩ "u" " p " rfl rfl rfl
    ("u", "p") (by decide +kernel)
  exact absurd hgiven (by decide)

end Dataspace
