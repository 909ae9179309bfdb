/-
The order of the stages of an image.

A publisher keeps the last stage that it reached, but only a push is refused, and only for
want of a login: whether the image was pulled or tagged before is not asked for.  So of the
order in which the stages stand, pulled, tagged, pushed, the record of an engine shows as
much as the caller keeps to.  `MadeCall.OnlyAfter` is about the record and
`PublisherVisit.AskedAfter` about what the caller asked for and was given; each call of a
publisher is at most one call of the engine, so one is read off the other.  Publishing an
image as a whole makes its calls in turn, and there the order holds with every engine.
-/
import Dataspace.Proofs.PublisherCalls

namespace Dataspace

namespace PublisherCall

/-- The name of the call of the engine. -/
def name : PublisherCall → String
  | pull => "pull"
  | tag => "tag"
  | login => "login"
  | push => "push"

theorem name_engineCall (p : Publisher) (call : PublisherCall) :
    (call.engineCall p).name = call.name := by
  cases call <;> rfl

theorem eq_of_name_eq {call other : PublisherCall} (h : call.name = other.name) :
    call = other := by
  revert h
  cases call <;> cases other <;> decide

theorem error?_success (call : PublisherCall) (digest : Option String) :
    (call.success digest).error? = none := by
  cases call <;> rfl

end PublisherCall

/-- In the record, every call of one name comes after a successful one of another. -/
def MadeCall.OnlyAfter (first next : PublisherCall) (made : List MadeCall) : Prop :=
  ∀ before m after, made = before ++ m :: after → m.1.name = next.name →
    ∃ earlier ∈ before, earlier.1.name = first.name ∧ earlier.2.error? = none

namespace PublisherVisit

/-- The call was asked for, and succeeded. -/
def gives (call : PublisherCall) (v : PublisherVisit) : Bool :=
  v.call == call && v.result.isOk

/-- The second call is asked for only after the first has succeeded; a push that is refused for
want of a login does not count. -/
def AskedAfter (first next : PublisherCall) (visits : List PublisherVisit) : Prop :=
  ∀ before v after, visits = before ++ v :: after → v.call = next →
    (next = .push → ∃ earlier ∈ before, earlier.gives .login = true) →
    ∃ earlier ∈ before, earlier.gives first = true

end PublisherVisit

/-! ## From the caller to the record -/

/-- Where a list is put together from at most one element each, an element comes from one place. -/
theorem exists_of_flatMap_eq_append {α β : Type} {f : α → List β} {xs : List α}
    {front back : List β} {b : β} (hone : ∀ x ∈ xs, (f x).length ≤ 1)
    (h : xs.flatMap f = front ++ b :: back) :
    ∃ before x after, xs = before ++ x :: after ∧ f x = [b] ∧ before.flatMap f = front := by
  induction xs generalizing front with
  | nil =>
      rw [List.flatMap_nil] at h
      exact absurd h.symm (List.append_ne_nil_of_right_ne_nil front (List.cons_ne_nil b back))
  | cons x xs ih =>
      obtain ⟨hx, hxs⟩ := List.forall_mem_cons.mp hone
      rw [List.flatMap_cons] at h
      match hfx : f x, front with
      | [], front =>
          rw [hfx, List.nil_append] at h
          obtain ⟨before, y, after, rfl, hy, rfl⟩ := ih hxs h
          exact ⟨x :: before, y, after, rfl, hy, by rw [List.flatMap_cons, hfx, List.nil_append]⟩
      | [c], [] =>
          rw [hfx] at h
          obtain ⟨rfl, -⟩ := List.cons.inj h
          exact ⟨[], x, xs, rfl, hfx, rfl⟩
      | [c], d :: front =>
          rw [hfx] at h
          obtain ⟨rfl, hrest⟩ := List.cons.inj h
          obtain ⟨before, y, after, rfl, hy, rfl⟩ := ih hxs hrest
          exact ⟨x :: before, y, after, rfl, hy, by rw [List.flatMap_cons, hfx]; rfl⟩
      | c :: d :: more, _ =>
          rw [hfx] at hx
          exact absurd hx (by simp)

section Visits

variable {p : Publisher} {v : PublisherVisit} {visits : List PublisherVisit}

/-- The call of the engine that a turn makes is that of its call, and they succeed together. -/
theorem PublisherTurn.of_mem_made (h : PublisherTurn p v) {m : MadeCall} (hm : m ∈ v.made) :
    m.1 = v.call.engineCall p ∧ (m.2.error? = none ↔ v.result.isOk = true) := by
  cases h with
  | refused _ => exact absurd hm List.not_mem_nil
  | failed call x _ =>
      obtain rfl := List.mem_singleton.mp hm
      exact ⟨rfl, iff_of_false (Option.some_ne_none x) Bool.false_ne_true⟩
  | done call digest _ =>
      obtain rfl := List.mem_singleton.mp hm
      exact ⟨rfl, iff_of_true (call.error?_success digest) rfl⟩

theorem PublisherTurn.length_made_le (h : PublisherTurn p v) : v.made.length ≤ 1 := by
  cases h with
  | refused _ => exact Nat.zero_le 1
  | failed _ _ _ | done _ _ _ => exact Nat.le_refl 1

theorem PublisherTurn.exists_made_of_isOk (h : PublisherTurn p v) (hok : v.result.isOk = true) :
    ∃ m, m ∈ v.made := by
  cases h with
  | refused _ | failed _ _ _ => exact absurd hok Bool.false_ne_true
  | done call digest _ => exact ⟨_, List.mem_singleton_self _⟩

theorem PublisherTurns.exists_turn (h : PublisherTurns p visits) (hv : v ∈ visits) :
    ∃ q, PublisherTurn q v := by
  obtain ⟨before, after, rfl⟩ := List.append_of_mem hv
  exact ⟨_, h.turn⟩

/-- A success of the engine is one that the caller was given. -/
theorem PublisherTurns.exists_made_iff (h : PublisherTurns p visits) (call : PublisherCall) :
    (∃ m ∈ visits.flatMap PublisherVisit.made, m.1.name = call.name ∧ m.2.error? = none) ↔
      ∃ v ∈ visits, v.gives call = true := by
  constructor
  · rintro ⟨m, hm, hname, hsuccess⟩
    obtain ⟨v, hv, hm⟩ := List.mem_flatMap.mp hm
    obtain ⟨q, hturn⟩ := h.exists_turn hv
    obtain ⟨hcall, hok⟩ := hturn.of_mem_made hm
    rw [hcall, PublisherCall.name_engineCall] at hname
    have hsame : v.call = call := PublisherCall.eq_of_name_eq hname
    exact ⟨v, hv, by simp [PublisherVisit.gives, hsame, hok.mp hsuccess]⟩
  · rintro ⟨v, hv, hgives⟩
    obtain ⟨hsame, hok⟩ : v.call = call ∧ v.result.isOk = true := by
      simpa [PublisherVisit.gives] using hgives
    obtain ⟨q, hturn⟩ := h.exists_turn hv
    obtain ⟨m, hm⟩ := hturn.exists_made_of_isOk hok
    obtain ⟨hcall, hsuccess⟩ := hturn.of_mem_made hm
    refine ⟨m, List.mem_flatMap.mpr ⟨v, hv, hm⟩, ?_, hsuccess.mpr hok⟩
    rw [hcall, PublisherCall.name_engineCall, hsame]

/-- The record keeps to the order just when the caller does. -/
theorem PublisherTurns.onlyAfter_iff (h : PublisherTurns p visits) (hstage : p.stage = none)
    (hlogin : p.loggedIn = false) (first next : PublisherCall) :
    MadeCall.OnlyAfter first next (visits.flatMap PublisherVisit.made) ↔
      PublisherVisit.AskedAfter first next visits := by
  constructor
  · rintro hrecord before v after rfl rfl hready
    have hbefore : PublisherTurns p before := h.of_append
    obtain ⟨answer, hmade⟩ : ∃ answer, v.made = [(v.call.engineCall p, answer)] := by
      rcases (h.proper hstage hlogin).one_call hready with ⟨_, -, hmade⟩ | ⟨_, -, hmade⟩
      · exact ⟨_, hmade⟩
      · exact ⟨_, hmade⟩
    refine (hbefore.exists_made_iff first).mp (hrecord _ (v.call.engineCall p, answer)
      (after.flatMap PublisherVisit.made) ?_ (v.call.name_engineCall p))
    rw [List.flatMap_append, List.flatMap_cons, hmade, List.singleton_append]
  · rintro hcaller front m back hmade hname
    have hone : ∀ v ∈ visits, v.made.length ≤ 1 := by
      intro v hv
      obtain ⟨q, hturn⟩ := h.exists_turn hv
      exact hturn.length_made_le
    obtain ⟨before, v, after, rfl, hv, rfl⟩ := exists_of_flatMap_eq_append hone hmade
    have hbefore : PublisherTurns p before := h.of_append
    have hm : m ∈ v.made := hv ▸ List.mem_singleton_self m
    obtain ⟨hcall, -⟩ := h.turn.of_mem_made hm
    have hnext : v.call = next := by
      rw [hcall, PublisherCall.name_engineCall] at hname
      exact PublisherCall.eq_of_name_eq hname
    refine (hbefore.exists_made_iff first).mpr (hcaller before v after rfl hnext ?_)
    rintro rfl
    rw [hnext] at hcall
    have hpush : (.push (p.after before).reference.text, m.2) = m := Prod.ext hcall.symm rfl
    exact (h.proper hstage hlogin).push_after_login _ m.2 (hpush ▸ hm)

end Visits

/-! ## The stage that is kept -/

/-- How far along a stage is. -/
def PublishStage.rank : PublishStage → Nat
  | pulled => 1
  | tagged => 2
  | pushed => 3

/-- How far a publisher has come. -/
def Publisher.rank (p : Publisher) : Nat :=
  (p.stage.map PublishStage.rank).getD 0

theorem pairwise_le_cons_cons {a b : Nat} {ns : List Nat} :
    (a :: b :: ns).Pairwise (· ≤ ·) ↔ a ≤ b ∧ (b :: ns).Pairwise (· ≤ ·) := by
  rw [List.pairwise_cons, List.forall_mem_cons, and_assoc]
  refine and_congr_right fun hab => and_iff_right_of_imp fun hns n hn => ?_
  exact Nat.le_trans hab (List.rel_of_pairwise_cons hns hn)

/-- The stage never falls just when no call succeeds that leads to an earlier one. -/
theorem PublisherTurns.pairwise_rank_iff {p : Publisher} {visits : List PublisherVisit}
    (h : PublisherTurns p visits) :
    (p.rank :: visits.map fun v => v.left.rank).Pairwise (· ≤ ·) ↔
      (p.rank :: (visits.filterMap PublisherVisit.reached?).map PublishStage.rank).Pairwise
        (· ≤ ·) := by
  induction h with
  | nil => exact Iff.rfl
  | @cons p v rest hturn _ ih =>
      rw [List.map_cons, pairwise_le_cons_cons, ih]
      cases hreached : v.reached? with
      | none =>
          have hsame : v.left.rank = p.rank := by
            rw [Publisher.rank, hturn.stage_left, hreached]
            rfl
          rw [hsame, List.filterMap_cons_none hreached]
          exact and_iff_right (Nat.le_refl _)
      | some stage =>
          have hstage : v.left.rank = stage.rank := by
            rw [Publisher.rank, hturn.stage_left, hreached]
            rfl
          rw [hstage, List.filterMap_cons_some hreached, List.map_cons, pairwise_le_cons_cons]

/-! ## Publishing as a whole -/

/-- The names of the calls of a whole run. -/
def PublishSettings.scriptNames : List String :=
  ["pull", "tag", "images", "login", "push"]

theorem eq_takeWhile_of_nodup {α : Type} [BEq α] [LawfulBEq α] {xs front back : List α} {x : α}
    (hxs : xs.Nodup) (h : xs = front ++ x :: back) : front = xs.takeWhile (· != x) := by
  subst h
  have hfront : ∀ y ∈ front, (y != x) = true := by
    intro y hy
    exact bne_iff_ne.mpr ((List.nodup_append.mp hxs).2.2 y hy x (List.mem_cons_self ..))
  rw [List.takeWhile_append_of_pos hfront, List.takeWhile_cons_of_neg (by simp), List.append_nil]

/-- Nothing is called for before what stands before it in the script has succeeded. -/
theorem PublishSettings.Outcome.onlyAfter {c : PublishSettings} {made : List MadeCall}
    {result : Except RegistryError PublishReport} (h : c.Outcome made result)
    {first next : PublisherCall} (hscript : first.name ∈ scriptNames.takeWhile (· != next.name)) :
    MadeCall.OnlyAfter first next made := by
  rintro before m after hmade hname
  obtain ⟨rest, hcalls⟩ := h.calls
  have hnames : scriptNames
      = (before.map fun e => e.1.name) ++ next.name :: (after.map Prod.fst ++ rest).map
        EngineCall.name := by
    have hall : scriptNames = c.script.map EngineCall.name := rfl
    rw [hall, ← hcalls, hmade, ← hname]
    simp
  rw [← eq_takeWhile_of_nodup (by decide) hnames] at hscript
  obtain ⟨earlier, hearlier, hfirst⟩ := List.mem_map.mp hscript
  refine ⟨earlier, hearlier, hfirst, ?_⟩
  -- had it failed, nothing would have come after it
  obtain ⟨call, answer⟩ := earlier
  cases hanswer : answer.error? with
  | none => rfl
  | some x =>
      obtain rfl := EngineAnswer.error?_eq_some_iff.mp hanswer
      obtain ⟨front, back, rfl⟩ := List.append_of_mem hearlier
      rw [List.append_assoc, List.cons_append] at hmade
      exact absurd (h.stopped front call x _ hmade).1 (by simp)

/-! ## Any sequence of calls -/

/-- Of any sequence of calls of a publisher and with any engine, the engine pushes only after a
successful login.  That it tags only after a successful pull, pushes only after a successful tag,
and that the stage never falls, holds just when the caller keeps to it; when an image is published
as a whole, the order is kept. -/
theorem stage_order_iff {registry : RegistrySettings} {image : ImageSettings}
    {resourceId : String} {p : Publisher}
    (h : Publisher.ofSettings registry image resourceId = .ok p) {η : Type} (e : Engine η)
    (calls : List PublisherCall) (s : η) :
    (∃ visits t, visits.map PublisherVisit.call = calls ∧
      Publisher.performAll e.logging calls (p, s, []) = (visits.map PublisherVisit.seen,
        p.after visits, t, visits.flatMap PublisherVisit.made) ∧
      let made := visits.flatMap PublisherVisit.made
      MadeCall.OnlyAfter .login .push made ∧
      (MadeCall.OnlyAfter .pull .tag made ↔ PublisherVisit.AskedAfter .pull .tag visits) ∧
      (MadeCall.OnlyAfter .tag .push made ↔ PublisherVisit.AskedAfter .tag .push visits) ∧
      ((visits.map fun v => v.left.rank).Pairwise (· ≤ ·) ↔
        ((visits.filterMap PublisherVisit.reached?).map PublishStage.rank).Pairwise (· ≤ ·))) ∧
    let published := (publishImage e.logging registry image resourceId (s, [])).2.2
    MadeCall.OnlyAfter .pull .tag published ∧ MadeCall.OnlyAfter .tag .push published ∧
      MadeCall.OnlyAfter .login .push published := by
  obtain ⟨hstage, hlogin⟩ := Publisher.fresh_of_ofSettings h
  constructor
  · obtain ⟨visits, t, hcalls, hturns, -, hlogged⟩ := Publisher.performAll_turns e calls p s
    refine ⟨visits, t, hcalls, hlogged [], ?_, hturns.onlyAfter_iff hstage hlogin .pull .tag,
      hturns.onlyAfter_iff hstage hlogin .tag .push, ?_⟩
    · exact (hturns.onlyAfter_iff hstage hlogin .login .push).mpr
        fun before v after _ _ hready => hready rfl
    · have hrank : p.rank = 0 := by
        rw [Publisher.rank, hstage]
        rfl
      have hiff := hturns.pairwise_rank_iff
      rw [hrank, List.pairwise_cons, List.pairwise_cons, and_iff_right fun n _ => Nat.zero_le n,
        and_iff_right fun n _ => Nat.zero_le n] at hiff
      exact hiff
  · obtain ⟨result, t, made, -, hlogged, houtcome⟩ :=
      publishImage_outcome e registry image resourceId s
    rw [hlogged]
    exact ⟨houtcome.onlyAfter (by decide), houtcome.onlyAfter (by decide),
      houtcome.onlyAfter (by decide)⟩

/-- The calls of a whole run, against the engine that does nothing. -/
theorem stage_order_iff_in_turn :
    let registry : RegistrySettings := ⟨some "r.example.org", some "apps", some "u", some "p"⟩
    let image : ImageSettings := ⟨some "app:1", none⟩
    let p : Publisher := ⟨"app:1", ⟨"r.example.org", "apps", "7", none⟩, "u", "p", none, false⟩
    let calls : List PublisherCall := [.pull, .tag, .login, .push]
    Publisher.ofSettings registry image "7" = .ok p ∧
      ∃ visits, visits.map PublisherVisit.call = calls ∧
        let made := visits.flatMap PublisherVisit.made
        MadeCall.OnlyAfter .login .push made ∧
        (MadeCall.OnlyAfter .pull .tag made ↔ PublisherVisit.AskedAfter .pull .tag visits) := by
  intro registry image p calls
  have hsettings : Publisher.ofSettings registry image "7" = .ok p := by
    rfl
  obtain ⟨⟨visits, t, hcalls, -, hpush, htag, -⟩, -⟩ :=
    stage_order_iff hsettings Engine.idle calls ()
  exact ⟨hsettings, visits, hcalls, hpush, htag⟩

/-- An image that is pushed before it is tagged, tagged before it is pulled, and then falls back to
the first stage. -/
theorem stages_out_of_order :
    let registry : RegistrySettings := ⟨some "r.example.org", some "apps", some "u", some "p"⟩
    let image : ImageSettings := ⟨some "app:1", none⟩
    let p : Publisher := ⟨"app:1", ⟨"r.example.org", "apps", "7", none⟩, "u", "p", none, false⟩
    let (seen, _, _, made) :=
      Publisher.performAll Engine.idle.logging [.login, .push, .tag, .pull] (p, (), [])
    Publisher.ofSettings registry image "7" = .ok p ∧ ¬ MadeCall.OnlyAfter .pull .tag made ∧
      ¬ MadeCall.OnlyAfter .tag .push made ∧
      ¬ (seen.map fun answer => answer.2.rank).Pairwise (· ≤ ·) := by
  refine ⟨rfl, ?_, ?_, by decide +kernel⟩
  · intro hpulled
    obtain ⟨earlier, hearlier, hname, -⟩ := hpulled
      [(.login "r.example.org" "u" "p", .done), (.push "r.example.org/apps/7", .digest none)]
      (.tag "app:1" "r.example.org/apps/7", .done) [(.pull "app:1", .done)] (by decide +kernel) rfl
    revert earlier
    decide +kernel
  · intro htagged
    obtain ⟨earlier, hearlier, hname, -⟩ := htagged [(.login "r.example.org" "u" "p", .done)]
      (.push "r.example.org/apps/7", .digest none)
      [(.tag "app:1" "r.example.org/apps/7", .done), (.pull "app:1", .done)] (by decide +kernel) rfl
    revert earlier
    decide +kernel

end Dataspace
