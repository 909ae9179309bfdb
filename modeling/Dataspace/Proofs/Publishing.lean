/-
Publishing an image.

The settings are asked for in a fixed order, and the first that is absent or blank is
reported before any call of the engine.  After that the calls are those of one script:
pull, tag, list, log in, push.  They are made in turn up to the first that fails, and its
error is that of the whole.
-/
import Dataspace.Proofs.EngineCalls

namespace Dataspace

open Text

/-! ## Settings without the blanks around them -/

/-- The setting without the blanks around it, and nothing if it is absent. -/
def trimmed (value : Option String) : String :=
  (value.map trim).getD ""

theorem bind_filled?_eq (value : Option String) :
    value.bind filled? = if trimmed value = "" then none else some (trimmed value) := by
  cases value with
  | none => rfl
  | some text =>
      by_cases hblank : trim text = ""
      · simp [trimmed, filled?, hblank]
      · simp [trimmed, filled?, hblank]

theorem RegistryField.demand_eq (field : RegistryField) (value : Option String) :
    field.demand value =
      if trimmed value = "" then .error (.missing field) else .ok (trimmed value) := by
  rw [demand, bind_filled?_eq]
  by_cases hblank : trimmed value = ""
  · rw [if_pos hblank, if_pos hblank]
  · rw [if_neg hblank, if_neg hblank]

/-- The reference of a resource ends in its id, without the blanks around it. -/
theorem ImageReference.resourceId_of_ofResource {settings : RegistrySettings} {id : String}
    {version : Option String} {reference : ImageReference}
    (h : ofResource settings id version = .ok reference) : reference.resourceId = trim id := by
  unfold ofResource ofParts at h
  cases haddress : RegistryField.address.demand settings.address with
  | error x =>
      rw [haddress] at h
      cases h
  | ok address =>
      cases hrepository : RegistryField.repository.demand settings.repository with
      | error x =>
          rw [haddress, hrepository] at h
          cases h
      | ok repository =>
          rw [haddress, hrepository, RegistryField.demand_eq] at h
          split at h
          · cases h
          · cases h
            rfl

/-- What an image is published with. -/
structure PublishSettings where
  registry : RegistrySettings
  image : ImageSettings
  resourceId : String

namespace PublishSettings

/-- The settings that are depended on, in the order in which they are asked for. -/
def demanded (c : PublishSettings) : List (RegistryField × Option String) :=
  [(.imageName, c.image.name), (.address, c.registry.address),
   (.repository, c.registry.repository), (.resourceId, some c.resourceId),
   (.username, c.registry.username), (.password, c.registry.password)]

/-- The first of them that is absent or blank. -/
def firstBlank? (c : PublishSettings) : Option RegistryField :=
  (c.demanded.find? fun d => trimmed d.2 == "").map Prod.fst

/-- The image to pull. -/
def source (c : PublishSettings) : String :=
  trimmed c.image.name

/-- The version after a colon, if it is not blank. -/
def suffix (c : PublishSettings) : String :=
  if trimmed c.image.version = "" then "" else ":" ++ trimmed c.image.version

/-- The name to push the image under. -/
def target (c : PublishSettings) : String :=
  trimmed c.registry.address ++ "/" ++ trimmed c.registry.repository ++ "/" ++ trim c.resourceId
    ++ c.suffix

/-- The parts of that name. -/
def reference (c : PublishSettings) : ImageReference where
  registry := trimmed c.registry.address
  repository := trimmed c.registry.repository
  resourceId := trim c.resourceId
  version := if trimmed c.image.version = "" then none else some (trimmed c.image.version)

/-- The call that logs in. -/
def login (c : PublishSettings) : EngineCall :=
  .login (trimmed c.registry.address) (trimmed c.registry.username) (trimmed c.registry.password)

/-- The calls of the engine, in order. -/
def script (c : PublishSettings) : List EngineCall :=
  [.pull c.source, .tag c.source c.target, .images, c.login, .push c.target]

/-- The calls when all of them succeed, the engine lists these images and reports this digest. -/
def fullRecord (c : PublishSettings) (images : List String) (digest : Option String) :
    List MadeCall :=
  c.script.zip [.done, .done, .listed images, .done, .digest digest]

theorem reference_text (c : PublishSettings) : c.reference.text = c.target := by
  rw [ImageReference.text, target, suffix, reference]
  split <;> rfl

/-- A version that is nothing but blanks is left out. -/
example : target ⟨⟨some " r", some "apps ", none, none⟩, ⟨none, some " "⟩, "7"⟩ = "r/apps/7" := by
  decide +kernel

/-! ## The publisher -/

/-- The publisher of the settings when nothing is blank. -/
def publisher (c : PublishSettings) : Publisher :=
  ⟨c.source, c.reference, trimmed c.registry.username, trimmed c.registry.password, none, false⟩

/-- A result, unless one of these settings is absent or blank: the first such is reported. -/
def unlessBlank {α : Type} (demands : List (RegistryField × Option String)) (a : α) :
    Except RegistryError α :=
  match (demands.find? fun d => trimmed d.2 == "").map Prod.fst with
  | some field => .error (.missing field)
  | none => .ok a

/-- A setting is asked for, and then the others. -/
theorem demand_bind {α : Type} {field : RegistryField} {value : Option String}
    {demands : List (RegistryField × Option String)} {k : String → Except RegistryError α} {a : α}
    (h : k (trimmed value) = unlessBlank demands a) :
    (field.demand value >>= k) = unlessBlank ((field, value) :: demands) a := by
  rw [field.demand_eq, unlessBlank]
  by_cases hblank : trimmed value = ""
  · rw [if_pos hblank, List.find?_cons_of_pos (by simpa using hblank)]
    rfl
  · rw [if_neg hblank, List.find?_cons_of_neg (by simpa using hblank)]
    exact h

theorem isOk_unlessBlank {α : Type} (demands : List (RegistryField × Option String)) (a : α) :
    (unlessBlank demands a).isOk = true ↔ ∀ d ∈ demands, trimmed d.2 ≠ "" := by
  unfold unlessBlank
  cases hfound : demands.find? fun d => trimmed d.2 == "" with
  | none => exact iff_of_true rfl (by simpa using hfound)
  | some d =>
      have hblank : trimmed d.2 = "" := by simpa using List.find?_some hfound
      exact iff_of_false Bool.false_ne_true fun h => h d (List.mem_of_find?_eq_some hfound) hblank

theorem eq_of_unlessBlank {α : Type} {demands : List (RegistryField × Option String)} {a b : α}
    (h : unlessBlank demands a = .ok b) : b = a := by
  unfold unlessBlank at h
  split at h
  · cases h
  · cases h
    rfl

/-- The settings that the reference is made of. -/
def named (c : PublishSettings) : List (RegistryField × Option String) :=
  [(.address, c.registry.address), (.repository, c.registry.repository),
   (.resourceId, some c.resourceId)]

/-- The reference that the settings give. -/
theorem ofResource_eq (c : PublishSettings) :
    ImageReference.ofResource c.registry c.resourceId c.image.version
      = unlessBlank c.named c.reference := by
  unfold ImageReference.ofResource ImageReference.ofParts
  simp only [bind_filled?_eq]
  exact demand_bind (demand_bind (demand_bind rfl))

/-- The first setting that is blank is reported, and otherwise there is a publisher. -/
theorem ofSettings_eq (c : PublishSettings) :
    Publisher.ofSettings c.registry c.image c.resourceId =
      match c.firstBlank? with
      | some field => .error (.missing field)
      | none => .ok c.publisher := by
  show _ = unlessBlank c.demanded c.publisher
  unfold Publisher.ofSettings ImageReference.ofResource ImageReference.ofParts
    RegistrySettings.demandCredentials
  simp only [bind_assoc, pure_bind, bind_filled?_eq]
  refine demand_bind (demand_bind (demand_bind (demand_bind (demand_bind (demand_bind ?_)))))
  rfl

end PublishSettings

namespace Publisher

variable {η : Type}

section Made

variable {registry : RegistrySettings} {image : ImageSettings} {resourceId : String}
  {p : Publisher}

/-- A publisher is made of the trimmed settings, and none of those it depends on is blank. -/
theorem eq_of_ofSettings (h : ofSettings registry image resourceId = .ok p) :
    let c : PublishSettings := ⟨registry, image, resourceId⟩
    p = c.publisher ∧ ∀ d ∈ c.demanded, trimmed d.2 ≠ "" := by
  intro c
  have hsettings : PublishSettings.unlessBlank c.demanded c.publisher = .ok p :=
    c.ofSettings_eq.symm.trans h
  refine ⟨PublishSettings.eq_of_unlessBlank hsettings, ?_⟩
  rw [← PublishSettings.isOk_unlessBlank c.demanded c.publisher, hsettings]
  rfl

/-- As it is made it has reached no stage and is not logged in. -/
theorem fresh_of_ofSettings (h : ofSettings registry image resourceId = .ok p) :
    p.stage = none ∧ p.loggedIn = false := by
  obtain ⟨rfl, -⟩ := eq_of_ofSettings h
  exact ⟨rfl, rfl⟩

end Made

/-- The calls of a whole run. -/
def script (p : Publisher) : List EngineCall :=
  [.pull p.source, .tag p.source p.reference.text, .images,
   .login p.reference.registry p.username p.password, .push p.reference.text]

/-- The computation makes these calls in turn, up to the first that fails.  If none fails, it
succeeds, and `ends` says with what for which answers. -/
def Follows {α : Type} (x : Publishing η α) (y : Publishing (η × List MadeCall) α)
    (state : Publisher × η) (calls : List EngineCall) (ends : α → List EngineAnswer → Prop) :
    Prop :=
  (∃ a next answers, Noted keeping x y state (.ok a) next (calls.zip answers) ∧ ends a answers) ∨
  (∃ error next made, Noted keeping x y state (.error error) next made ∧
    InTurn Prod.fst MadeCall.error? calls made (some error))

/-- A call that the rest follows if it succeeds. -/
theorem Follows.call {α β : Type} {x : Publishing η α} {y : Publishing (η × List MadeCall) α}
    {f : α → Publishing η β} {g : α → Publishing (η × List MadeCall) β} {p q : Publisher} {s : η}
    {call : EngineCall} {calls : List EngineCall} {success : α → EngineAnswer}
    {ends : β → List EngineAnswer → Prop} (hsuccess : ∀ a, (success a).error? = none)
    (hcall : (∃ a t, Noted keeping x y (p, s) (.ok a) (q, t) [(call, success a)]) ∨
      (∃ error t, Noted keeping x y (p, s) (.error error) (p, t) [(call, .failed error)]))
    (hrest : ∀ a t, Follows (f a) (g a) (q, t) calls
      fun b answers => ends b (success a :: answers)) :
    Follows (x >>= f) (y >>= g) (p, s) (call :: calls) ends := by
  rcases hcall with ⟨a, t, hcall⟩ | ⟨error, t, hcall⟩
  · rcases hrest a t with ⟨b, next, answers, hnoted, hends⟩ | ⟨error, next, made, hnoted, hturn⟩
    · exact .inl ⟨b, next, success a :: answers, hcall.bind_ok hnoted, hends⟩
    · exact .inr ⟨error, next, _, hcall.bind_ok hnoted,
        .next (v := (call, success a)) (hsuccess a) hturn⟩
  · exact .inr ⟨error, _, _, hcall.bind_error, .failed (v := (call, EngineAnswer.failed error)) rfl⟩

/-- A run makes the calls of its script, and reports what the last listing and the push gave. -/
theorem run_follows (e : Engine η) (p : Publisher) (s : η) :
    Follows (run e) (run e.logging) (p, s) p.script fun report answers =>
      ∃ images digest, answers = [.done, .done, .listed images, .done, .digest digest] ∧
        report = ⟨p.reference, .pushed, digest, images⟩ := by
  refine .call (fun _ => rfl) (calling_cases (fun p => e.pull p.source) (fun p => .pull p.source)
    (fun _ => .done) (reaching .pulled) p s) fun _ s₁ => ?_
  refine .call (fun _ => rfl) (calling_cases (fun p => e.tag p.source p.reference.text)
    (fun p => .tag p.source p.reference.text) (fun _ => .done) (reaching .tagged) _ s₁)
    fun _ s₂ => ?_
  refine .call (fun _ => rfl) (calling_cases (fun _ => e.images) (fun _ => .images) .listed id _ s₂)
    fun images s₃ => ?_
  refine .call (fun _ => rfl) (calling_cases
    (fun p => e.login p.reference.registry p.username p.password)
    (fun p => .login p.reference.registry p.username p.password) (fun _ => .done)
    (fun p => { p with loggedIn := true }) _ s₃) fun _ s₄ => ?_
  refine .call (fun _ => rfl) (push_cases rfl e s₄) fun digest s₅ => ?_
  exact .inl ⟨_, _, [], .quiet rfl fun _ => rfl, images, digest, rfl, rfl⟩

end Publisher

/-! ## The whole -/

namespace PublishSettings

variable {η : Type}

/-- What was done with these settings comes to `result`, by the calls `made`. -/
structure Outcome (c : PublishSettings) (made : List MadeCall)
    (result : Except RegistryError PublishReport) : Prop where
  calls : made.map Prod.fst <+: c.script
  /-- A setting that is absent or blank is reported before any call. -/
  blank : ∀ field, c.firstBlank? = some field → result = .error (.missing field) ∧ made = []
  /-- Nothing comes after a call that failed, and its error is returned. -/
  stopped : ∀ before call x after, made = before ++ (call, .failed x) :: after →
    after = [] ∧ result = .error x
  /-- There is no other cause of an error. -/
  failed : c.firstBlank? = none → ∀ x, result = .error x →
    ∃ before call, made = before ++ [(call, .failed x)]
  succeeds_iff : result.isOk = true ↔
    made.map Prod.fst = c.script ∧ ∀ m ∈ made, m.2.error? = none
  reported : ∀ report, result = .ok report → ∃ images digest,
    made = c.fullRecord images digest ∧ report = ⟨c.reference, .pushed, digest, images⟩ ∧
      report.reference.text = c.target
  login_once : made.countP (fun m => m.1.name == "login") ≤ 1
  /-- A push comes directly after a successful login. -/
  login_before_push : ∀ before reference answer after,
    made = before ++ (.push reference, answer) :: after →
      ∃ earlier login, before = earlier ++ [(c.login, login)] ∧ login.error? = none

/-- What follows from the calls having been made in turn. -/
theorem outcome_of_inTurn {c : PublishSettings} {made : List MadeCall}
    {result : Except RegistryError PublishReport}
    (hturn : InTurn Prod.fst MadeCall.error? c.script made (failure? result))
    (hfilled : c.firstBlank? = none)
    (hreport : ∀ report, result = .ok report → ∃ images digest,
      made = c.fullRecord images digest ∧ report = ⟨c.reference, .pushed, digest, images⟩) :
    c.Outcome made result where
  calls := hturn.tasks_prefix
  blank := fun field hfield => absurd (hfilled.symm.trans hfield) (by simp)
  stopped := fun before call x after hmade => by
    obtain ⟨hafter, hx⟩ := hturn.last_of_some hmade rfl
    exact ⟨hafter, failure?_eq_some_iff.mp hx⟩
  failed := fun _ x hx => by
    subst hx
    obtain ⟨before, ⟨call, answer⟩, hmade, hanswer⟩ := hturn.exists_last
    obtain rfl : answer = .failed x := EngineAnswer.error?_eq_some_iff.mp hanswer
    exact ⟨before, call, hmade⟩
  succeeds_iff := by
    refine Iff.trans ?_ hturn.error_eq_none_iff
    cases result with
    | ok report => exact iff_of_true rfl rfl
    | error x => exact iff_of_false Bool.false_ne_true (Option.some_ne_none x)
  reported := fun report hok => by
    obtain ⟨images, digest, hmade, rfl⟩ := hreport report hok
    exact ⟨images, digest, hmade, rfl, c.reference_text⟩
  login_once := by
    have hcount := hturn.tasks_prefix.sublist.countP_le (p := fun call => call.name == "login")
    rw [List.countP_map] at hcount
    exact hcount
  login_before_push := fun before reference answer after hmade => by
    have hnone := hturn.none_before hmade
    obtain ⟨rest, hscript⟩ := hturn.tasks_prefix
    rw [hmade] at hscript
    -- the only push of the script is its last call, and the login is the one before it
    rcases before with _ | ⟨pull, _ | ⟨tag, _ | ⟨images, _ | ⟨login, _ | ⟨push, more⟩⟩⟩⟩⟩
    case cons.cons.cons.cons.nil =>
      have hlogin : login.1 = c.login := by
        simp only [script, List.map_cons, List.cons_append, List.cons.injEq] at hscript
        exact hscript.2.2.2.1
      refine ⟨[pull, tag, images], login.2, ?_, hnone login (by simp)⟩
      rw [← hlogin]
      rfl
    all_goals simp [script, PublishSettings.login] at hscript

theorem outcome_of_blank {c : PublishSettings} {field : RegistryField}
    (hblank : c.firstBlank? = some field) : c.Outcome [] (.error (.missing field)) where
  calls := List.nil_prefix
  blank := fun other hother => by
    cases hblank.symm.trans hother
    exact ⟨rfl, rfl⟩
  stopped := fun before call x after hmade => absurd hmade.symm (by simp)
  failed := fun hfilled => absurd (hblank.symm.trans hfilled) (by simp)
  succeeds_iff := by simp [Except.isOk, Except.toBool, script]
  reported := fun _ hok => by cases hok
  login_once := Nat.zero_le _
  login_before_push := fun before reference answer after hmade => absurd hmade.symm (by simp)

/-- What the publisher's run comes to is what publishing comes to. -/
theorem noted_of_run {c : PublishSettings} (hfilled : c.firstBlank? = none) {e : Engine η} {s t : η}
    {result : Except RegistryError PublishReport} {q : Publisher} {made : List MadeCall}
    (hrun : Noted Publisher.keeping (Publisher.run e) (Publisher.run e.logging) (c.publisher, s)
      result (q, t) made) :
    Noted Prod.mk (publishImage e c.registry c.image c.resourceId)
      (publishImage e.logging c.registry c.image c.resourceId) s result t made := by
  have hsettings := c.ofSettings_eq
  rw [hfilled] at hsettings
  constructor
  · simp only [publishImage, hsettings, hrun.plain]
  · intro log
    have hlog : Publisher.run e.logging (c.publisher, s, log) = (result, q, t, log ++ made) :=
      hrun.noted log
    simp only [publishImage, hsettings, hlog]

theorem publisher_script (c : PublishSettings) : c.publisher.script = c.script := by
  rw [Publisher.script, script, ← c.reference_text]
  rfl

/-- Publishing ends with a setting that is blank, or it is the run of a publisher. -/
theorem noted_publishImage (c : PublishSettings) (e : Engine η) (s : η) :
    ∃ result t made, Noted Prod.mk (publishImage e c.registry c.image c.resourceId)
      (publishImage e.logging c.registry c.image c.resourceId) s result t made ∧
        c.Outcome made result := by
  cases hblank : c.firstBlank? with
  | some field =>
      have hsettings := c.ofSettings_eq
      rw [hblank] at hsettings
      refine ⟨.error (.missing field), s, [], .quiet ?_ fun log => ?_, outcome_of_blank hblank⟩
      · simp only [publishImage, hsettings]
      · simp only [publishImage, hsettings]
  | none =>
      rcases Publisher.run_follows e c.publisher s with
        ⟨report, ⟨q, t⟩, answers, hrun, images, digest, rfl, rfl⟩ | ⟨x, ⟨q, t⟩, made, hrun, hturn⟩
      · rw [c.publisher_script] at hrun
        refine ⟨_, t, _, noted_of_run hblank hrun,
          outcome_of_inTurn (MadeCall.inTurn_zip rfl ?_) hblank ?_⟩
        · simp [EngineAnswer.error?]
        · intro report hreport
          cases hreport
          exact ⟨images, digest, rfl, rfl⟩
      · rw [c.publisher_script] at hturn
        refine ⟨_, t, made, noted_of_run hblank hrun, outcome_of_inTurn hturn hblank ?_⟩
        intro report hreport
        cases hreport

end PublishSettings

/-- Against any engine, from any state of it, and whatever the settings.  With the calls kept the
result is the same, and `Outcome` says how the calls made and the result go together: a blank
setting is reported before any call, and otherwise the calls of the script are made in turn up to
the first that fails. -/
theorem publishImage_outcome {η : Type} (e : Engine η) (registry : RegistrySettings)
    (image : ImageSettings) (resourceId : String) (s : η) :
    ∃ result t made,
      publishImage e registry image resourceId s = (result, t) ∧
      publishImage e.logging registry image resourceId (s, []) = (result, t, made) ∧
      PublishSettings.Outcome ⟨registry, image, resourceId⟩ made result := by
  obtain ⟨result, t, made, hnoted, houtcome⟩ :=
    PublishSettings.noted_publishImage ⟨registry, image, resourceId⟩ e s
  exact ⟨result, t, made, hnoted.plain, hnoted.noted [], houtcome⟩

end Dataspace
