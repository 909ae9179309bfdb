/-
Where the password of a registry goes.

The container engine is a program that is started once for each call.  What anyone else on
the machine sees of a start are the program and its arguments; the input is between the two.
Publishing with one password and with another makes the same starts in the same order, as
long as the program itself ends no differently for it, and the two inputs of the login are
the two passwords.  That no answer depends on the password has to be asked of all later
answers as well: a program may keep what it was told.  Which commands there are is read off
the calls that publishing makes of any engine; the password is in one call and in no command.
-/
import Dataspace.Proofs.TwoRuns
import Dataspace.Registry.Docker

namespace Dataspace

open Text

/-! ## Starts of a program -/

/-- What a program is started with. -/
structure Start where
  args : List String
  input : Option String
deriving DecidableEq

/-- What is not secret about it. -/
def Start.shown (x : Start) : List String × Bool :=
  (x.args, x.input.isSome)

namespace ProgramHost

variable {η : Type} {host : ProgramHost η} {program : String} {s t : η}

/-- The host that also keeps what it was asked to start, in order. -/
def logging (host : ProgramHost η) : ProgramHost (η × List (String × Start)) where
  start program args input s :=
    let (ended, next) := host.start program args input s.1
    (ended, next, s.2 ++ [(program, ⟨args, input⟩)])

/-- How starts of a program end, one after the other. -/
def results (host : ProgramHost η) (program : String) :
    List Start → η → List (Except StartFault ProgramResult)
  | [], _ => []
  | x :: rest, s =>
    let (ended, next) := host.start program x.args x.input s
    ended :: host.results program rest next

/-- The program cannot be made to end differently in one state than in the other by starts that
differ at most in what their inputs say. -/
def Alike (host : ProgramHost η) (program : String) (s t : η) : Prop :=
  ∀ xs ys : List Start, xs.map Start.shown = ys.map Start.shown →
    host.results program xs s = host.results program ys t

/-- What the program writes and how it ends does not depend on what its inputs say. -/
def InputBlind (host : ProgramHost η) (program : String) (s : η) : Prop :=
  host.Alike program s s

/-- After one more start nothing else can be told. -/
theorem Alike.start (h : host.Alike program s t) {x y : Start} (hshown : x.shown = y.shown) :
    (host.start program x.args x.input s).1 = (host.start program y.args y.input t).1 ∧
      host.Alike program (host.start program x.args x.input s).2
        (host.start program y.args y.input t).2 := by
  have hmore : ∀ xs ys : List Start, xs.map Start.shown = ys.map Start.shown →
      host.results program (x :: xs) s = host.results program (y :: ys) t := by
    intro xs ys hrest
    refine h (x :: xs) (y :: ys) ?_
    rw [List.map_cons, List.map_cons, hshown, hrest]
  refine ⟨(List.cons.inj (hmore [] [] rfl)).1, ?_⟩
  intro xs ys hrest
  exact (List.cons.inj (hmore xs ys hrest)).2

end ProgramHost

/-! ## The container engine -/

theorem Engine.answering_of_eq {η α : Type} {call : EngineCall} {success : α → EngineAnswer}
    {run : EngineRun η α} {s t : η} {result : Except RegistryError α} (h : run s = (result, t))
    (made : List MadeCall) :
    answering call success run (s, made)
      = (result, t, made ++ [(call, .ofResult success result)]) := by
  simp only [answering, h]

namespace Docker

variable {η α : Type} {host : ProgramHost η} {password other : String}

/-- What is started for a command: the password is the input of a login, and no other command has
an input. -/
def started (d : Docker) (password : String) (args : List String) : String × Start :=
  (d.program, ⟨args, if args.head? = some "login" then some password else none⟩)

/-- A start shows its command. -/
theorem args_started (d : Docker) (password : String) (commands : List (List String)) :
    ((commands.map (d.started password)).map fun x => x.2.args) = commands := by
  rw [List.map_map]
  exact List.map_id commands

/-- Two machines on which the program cannot be told apart, after the same commands, with a
password each. -/
def SameCommands (d : Docker) (host : ProgramHost η) (password other : String)
    (x y : η × List (String × Start)) : Prop :=
  host.Alike d.program x.1 y.1 ∧
    ∃ commands : List (List String),
      x.2 = commands.map (d.started password) ∧ y.2 = commands.map (d.started other)

theorem run_of_hasNul {d : Docker} {args : List String} (h : hasNul d.program args = true)
    (host : ProgramHost η) (input : Option String) (s : η) :
    d.run host args input s = (d.output args (.error .nulInArgument), s) := by
  have hstart : d.start host args input s = (.error .nulInArgument, s) := if_pos h
  simp only [run, hstart]

theorem run_of_not_hasNul {d : Docker} {args : List String} (h : ¬ hasNul d.program args = true)
    (host : ProgramHost η) (input : Option String) (s : η) :
    d.run host args input s = (d.output args (host.start d.program args input s).1,
      (host.start d.program args input s).2) := by
  have hstart : d.start host args input s = host.start d.program args input s := if_neg h
  simp only [run, hstart]

/-- One more command. -/
theorem together_run (d : Docker) (host : ProgramHost η) {args : List String}
    {input input' : Option String} (hinput : (d.started password args).2.input = input)
    (hinput' : (d.started other args).2.input = input') :
    Together (d.SameCommands host password other) (d.run host.logging args input)
      (d.run host.logging args input') := by
  rintro ⟨s, log⟩ ⟨t, log'⟩ ⟨halike, commands, rfl, rfl⟩
  subst hinput hinput'
  by_cases hnul : hasNul d.program args = true
  · rw [run_of_hasNul hnul, run_of_hasNul hnul]
    exact ⟨rfl, halike, commands, rfl, rfl⟩
  · have hshown : (d.started password args).2.shown = (d.started other args).2.shown := by
      unfold started Start.shown
      split <;> rfl
    obtain ⟨hended, hnext⟩ := halike.start hshown
    rw [run_of_not_hasNul hnul, run_of_not_hasNul hnul]
    refine ⟨congrArg (d.output args) hended, hnext, commands ++ [args], ?_, ?_⟩
    · rw [List.map_append]
      rfl
    · rw [List.map_append]
      rfl

/-- Every call of the engine is one command, and its answer is read from what the command wrote. -/
theorem together_engine (d : Docker) (host : ProgramHost η) (password other : String) :
    (d.engine host.logging).Matches (d.SameCommands host password other)
      (d.engine host.logging) password other where
  login _ _ := (d.together_run host rfl rfl).bind fun _ => .pure ()
  pull _ := (d.together_run host rfl rfl).bind fun _ => .pure ()
  tag _ _ := (d.together_run host rfl rfl).bind fun _ => .pure ()
  push _ := (d.together_run host rfl rfl).bind fun written => .pure (pushDigest? written)
  images := (d.together_run host rfl rfl).bind fun written => .pure (filledLines written)

/-- What is kept about the starts decides nothing. -/
theorem together_run_logging (d : Docker) (host : ProgramHost η) (args : List String)
    (input : Option String) :
    Together (fun s x => x.1 = s) (d.run host args input) (d.run host.logging args input) := by
  rintro s ⟨t, log⟩ hst
  obtain rfl : t = s := hst
  by_cases hnul : hasNul d.program args = true
  · rw [run_of_hasNul hnul, run_of_hasNul hnul]
    exact ⟨rfl, rfl⟩
  · rw [run_of_not_hasNul hnul, run_of_not_hasNul hnul]
    exact ⟨rfl, rfl⟩

theorem together_engine_logging (d : Docker) (host : ProgramHost η) (password : String) :
    (d.engine host).Matches (fun s x => x.1 = s) (d.engine host.logging) password password where
  login _ _ := (d.together_run_logging host _ _).bind fun _ => .pure ()
  pull _ := (d.together_run_logging host _ _).bind fun _ => .pure ()
  tag _ _ := (d.together_run_logging host _ _).bind fun _ => .pure ()
  push _ := (d.together_run_logging host _ _).bind fun written => .pure (pushDigest? written)
  images := (d.together_run_logging host _ _).bind fun written => .pure (filledLines written)

/-! ## Which commands -/

/-- The arguments for a call of the engine. -/
def command : EngineCall → List String
  | .login registry username _ => ["login", registry, "--username", username, "--password-stdin"]
  | .pull image => ["pull", image]
  | .tag source target => ["tag", source, target]
  | .push reference => ["push", reference]
  | .images => ["images", "--format", imageFormat]

/-- The program can be started for the call. -/
def startable (d : Docker) (call : EngineCall) : Bool :=
  !hasNul d.program (command call)

/-- Beside the calls that were made: the starts are those of the calls that could be started, and a
call that could not has failed. -/
def StartsOf (d : Docker) (password : String) (x : η × List (String × Start))
    (y : (η × List (String × Start)) × List MadeCall) : Prop :=
  y.1 = x ∧
  x.2 = ((y.2.map Prod.fst).filter d.startable).map (fun call => d.started password (command call)) ∧
  ∀ m ∈ y.2, m.2.error? = none → d.startable m.1 = true

/-- One more call, with a start if it can be started. -/
theorem StartsOf.append {d : Docker} {s t : η} {log : List (String × Start)} {made : List MadeCall}
    (h : d.StartsOf password (s, log) ((s, log), made)) {call : EngineCall} {answer : EngineAnswer}
    (hanswer : answer.error? = none → d.startable call = true) :
    d.StartsOf password
      (t, log ++ ([call].filter d.startable).map fun call => d.started password (command call))
      ((t, log ++ ([call].filter d.startable).map fun call => d.started password (command call)),
        made ++ [(call, answer)]) := by
  obtain ⟨-, hlog, hmade⟩ := h
  refine ⟨rfl, ?_, ?_⟩
  · rw [List.map_append, List.filter_append, List.map_append, ← hlog]
    rfl
  · intro m hm
    rcases List.mem_append.mp hm with hm | hm
    · exact hmade m hm
    · rw [List.mem_singleton.mp hm]
      exact hanswer

/-- A call is one command, and what it gives is read off what the command wrote. -/
theorem run_command (d : Docker) (host : ProgramHost η) (password : String) (call : EngineCall)
    (read : String → α) (s : η) (log : List (String × Start)) : ∃ result t,
    (d.run host.logging (command call) (d.started password (command call)).2.input >>=
        fun written => pure (read written)) (s, log)
      = (result, t,
          log ++ ([call].filter d.startable).map fun call => d.started password (command call)) ∧
      (d.startable call = false → ∃ x, result = .error x) := by
  cases hstart : d.startable call with
  | false =>
      have hnul : hasNul d.program (command call) = true := by
        simpa [startable] using hstart
      have hnone : [call].filter d.startable = [] := by
        simp [hstart]
      rw [hnone, List.map_nil, List.append_nil]
      exact ⟨_, _, bind_error (run_of_hasNul hnul host.logging _ (s, log)), fun _ => ⟨_, rfl⟩⟩
  | true =>
      have hnul : ¬ hasNul d.program (command call) = true := by
        simpa [startable] using hstart
      have hone : [call].filter d.startable = [call] := by
        simp [hstart]
      have hrun := run_of_not_hasNul hnul host.logging (d.started password (command call)).2.input
        (s, log)
      rw [hone]
      cases hwritten : d.output (command call) (host.logging.start d.program (command call)
          (d.started password (command call)).2.input (s, log)).1 with
      | ok written =>
          rw [hwritten] at hrun
          exact ⟨_, _, bind_ok hrun, fun h => by cases h⟩
      | error x =>
          rw [hwritten] at hrun
          exact ⟨_, _, bind_error hrun, fun _ => ⟨x, rfl⟩⟩

theorem together_answering (d : Docker) (host : ProgramHost η) (call : EngineCall)
    {input : Option String} {success : α → EngineAnswer} (read : String → α)
    (hinput : (d.started password (command call)).2.input = input) :
    Together (d.StartsOf password)
      (d.run host.logging (command call) input >>= fun written => pure (read written))
      (Engine.answering call success
        (d.run host.logging (command call) input >>= fun written => pure (read written))) := by
  rintro ⟨s, log⟩ ⟨z, made⟩ hmade
  obtain rfl : z = (s, log) := hmade.1
  subst hinput
  obtain ⟨result, t, hrun, hfails⟩ := d.run_command host password call read s log
  rw [hrun, Engine.answering_of_eq hrun]
  refine ⟨rfl, hmade.append ?_⟩
  intro hnone
  cases hstart : d.startable call with
  | true => rfl
  | false =>
      obtain ⟨x, rfl⟩ := hfails hstart
      cases hnone

/-- The calls of the engine and the starts they come to. -/
theorem together_engine_answering (d : Docker) (host : ProgramHost η) (password : String) :
    (d.engine host.logging).Matches (d.StartsOf password) (d.engine host.logging).logging
      password password where
  login registry username :=
    d.together_answering host (.login registry username password) (fun _ => ()) rfl
  pull image := d.together_answering host (.pull image) (fun _ => ()) rfl
  tag source target := d.together_answering host (.tag source target) (fun _ => ()) rfl
  push reference := d.together_answering host (.push reference) pushDigest? rfl
  images := d.together_answering host .images filledLines rfl

end Docker

/-! ## Publishing -/

/-- The commands of a whole publishing. -/
def PublishSettings.commands (c : PublishSettings) : List (List String) :=
  c.script.map Docker.command

/-- Publishing starts the program for these commands as far as it comes. -/
theorem Docker.starts_publishImage {η : Type} (d : Docker) (host : ProgramHost η) (s : η)
    (registry : RegistrySettings) (image : ImageSettings) (resourceId : String) {password : String}
    (hpassword : trim password ≠ "") : ∃ result next commands,
      publishImage (d.engine host.logging) (registry.withPassword password) image resourceId (s, [])
        = (result, next, commands.map (d.started (trim password))) ∧
      commands.Sublist (PublishSettings.commands ⟨registry, image, resourceId⟩) ∧
      (result.isOk = true → commands = PublishSettings.commands ⟨registry, image, resourceId⟩) := by
  obtain ⟨result, ⟨next, log⟩, made, hnoted, houtcome⟩ := PublishSettings.noted_publishImage
    ⟨registry.withPassword password, image, resourceId⟩ (d.engine host.logging) (s, [])
  have hplain : publishImage (d.engine host.logging) (registry.withPassword password) image
      resourceId (s, []) = (result, next, log) := hnoted.plain
  have hnone : d.StartsOf (trim password) (s, []) ((s, []), []) :=
    ⟨rfl, rfl, List.forall_mem_nil _⟩
  obtain ⟨-, hstarts⟩ := PublishSettings.together_publishImage registry image resourceId
    (d.together_engine_answering host (trim password)) hpassword hpassword _ _ hnone
  have hmade : publishImage (d.engine host.logging).logging (registry.withPassword password) image
      resourceId ((s, []), []) = (result, (next, log), made) := hnoted.noted []
  rw [hplain, hmade] at hstarts
  obtain ⟨-, hlog, hstartable⟩ := hstarts
  refine ⟨result, next, ((made.map Prod.fst).filter d.startable).map command, ?_, ?_, ?_⟩
  · rw [hplain, List.map_map]
    exact congrArg (fun log => (result, next, log)) hlog
  · exact (List.filter_sublist.trans houtcome.calls.sublist).map command
  · intro hok
    obtain ⟨hscript, hdone⟩ := houtcome.succeeds_iff.mp hok
    have hall : (made.map Prod.fst).filter d.startable = made.map Prod.fst := by
      refine List.filter_eq_self.mpr ?_
      intro call hcall
      obtain ⟨m, hm, rfl⟩ := List.mem_map.mp hcall
      exact hstartable m hm (hdone m hm)
    rw [hall, hscript]
    rfl

/-- Publishing with the `docker` command line, where the program ends no differently for what its
inputs say.  The result and the commands are there before the password is: with any password that
is not blank publishing comes to this result, be it a report or an error, and starts the program
for these commands in this order.  They are those of a whole publishing, or some of them if it
fails.  The password, without the blanks around it, is the input of the login, and nothing else has
an input. -/
theorem publishImage_hides_password {η : Type} (d : Docker) (host : ProgramHost η) (s : η)
    (hblind : host.InputBlind d.program s) (registry : RegistrySettings) (image : ImageSettings)
    (resourceId : String) :
    ∃ result commands,
      commands.Sublist (PublishSettings.commands ⟨registry, image, resourceId⟩) ∧
      (result.isOk = true →
        commands = PublishSettings.commands ⟨registry, image, resourceId⟩) ∧
      ∀ password, trim password ≠ "" →
        let settings := registry.withPassword password
        (publishImage (d.engine host) settings image resourceId s).1 = result ∧
        ∃ next, publishImage (d.engine host.logging) settings image resourceId (s, [])
          = (result, next, commands.map (d.started (trim password))) := by
  -- what is started with this password is started with every other one
  have hx : trim "x" ≠ "" := by decide +kernel
  obtain ⟨result, left, commands, hrun, hsublist, hwhole⟩ :=
    d.starts_publishImage host s registry image resourceId hx
  refine ⟨result, commands, hsublist, hwhole, ?_⟩
  intro password hpassword settings
  rcases hother : publishImage (d.engine host.logging) settings image resourceId (s, []) with
    ⟨result', next, log⟩
  have hplain := PublishSettings.together_publishImage registry image resourceId
    (d.together_engine_logging host (trim password)) hpassword hpassword s (s, []) rfl
  have hboth := PublishSettings.together_publishImage registry image resourceId
    (d.together_engine host (trim "x") (trim password)) hx hpassword (s, []) (s, [])
    ⟨hblind, [], rfl, rfl⟩
  rw [hother] at hplain
  rw [hrun, hother] at hboth
  obtain ⟨hsame, -, started, hstarted, hlog⟩ := hboth
  have hcommands : commands = started := by
    rw [← d.args_started (trim "x") commands, ← d.args_started (trim "x") started]
    exact congrArg _ hstarted
  obtain rfl : result = result' := hsame
  subst hcommands
  exact ⟨hplain.1, next, congrArg (fun log => (result, next, log)) hlog⟩

namespace ProgramHost

/-- A host on which a program keeps its inputs and denies every push. -/
def denying : ProgramHost (List String) where
  start _ args input s :=
    let ended :=
      if args.head? = some "push" then ⟨.code 1, [], Utf8.encode "denied"⟩ else ⟨.code 0, [], []⟩
    (.ok ended, s ++ input.toList)

/-- What is kept is never told. -/
theorem inputBlind_denying (program : String) (s : List String) :
    denying.InputBlind program s := by
  have halike : ∀ (xs ys : List Start), xs.map Start.shown = ys.map Start.shown →
      ∀ s t, denying.results program xs s = denying.results program ys t := by
    intro xs
    induction xs with
    | nil =>
        intro ys hshown s t
        obtain rfl := List.map_eq_nil_iff.mp hshown.symm
        rfl
    | cons x xs ih =>
        intro ys hshown s t
        obtain ⟨y, ys, rfl, hy, hrest⟩ := List.map_eq_cons_iff.mp hshown.symm
        have hargs : x.args = y.args := congrArg Prod.fst hy.symm
        have hended : (denying.start program x.args x.input s).1
            = (denying.start program y.args y.input t).1 := by
          rw [hargs]
          rfl
        exact List.cons_eq_cons.mpr ⟨hended, ih ys hrest.symm _ _⟩
  intro xs ys hshown
  exact halike xs ys hshown s s

end ProgramHost

/-- Two passwords, one of them with blanks around it, where the push is denied. -/
theorem publishImage_hides_password_denied :
    let d := Docker.standard
    let host := ProgramHost.denying
    let registry : RegistrySettings := ⟨some "r", some "apps", some "u", none⟩
    let image : ImageSettings := ⟨some "i", none⟩
    let first := publishImage (d.engine host.logging) (registry.withPassword "one") image "7" ([], [])
    let second :=
      publishImage (d.engine host.logging) (registry.withPassword " two ") image "7" ([], [])
    host.InputBlind d.program [] ∧ first.1 = second.1 ∧
      first.2.2.map (fun x => x.2.args) = second.2.2.map (fun x => x.2.args) ∧
      second.2.2 =
        [("docker", ⟨["pull", "i"], none⟩), ("docker", ⟨["tag", "i", "r/apps/7"], none⟩),
         ("docker", ⟨["images", "--format", Docker.imageFormat], none⟩),
         ("docker", ⟨["login", "r", "--username", "u", "--password-stdin"], some "two"⟩),
         ("docker", ⟨["push", "r/apps/7"], none⟩)] := by
  intro d host registry image first second
  have hblind := ProgramHost.inputBlind_denying d.program []
  obtain ⟨result, commands, -, -, h⟩ :=
    publishImage_hides_password d host [] hblind registry image "7"
  obtain ⟨-, left, hfirst⟩ := h "one" (by decide +kernel)
  obtain ⟨-, left', hsecond⟩ := h " two " (by decide +kernel)
  have hfirst : first = _ := hfirst
  have hsecond : second = _ := hsecond
  have htwo : trim " two " = "two" := by decide +kernel
  have hcommands : first.2.2.map (fun x => x.2.args) = [["pull", "i"], ["tag", "i", "r/apps/7"],
      ["images", "--format", Docker.imageFormat],
      ["login", "r", "--username", "u", "--password-stdin"], ["push", "r/apps/7"]] := by
    decide +kernel
  have hshown : first.2.2.map (fun x => x.2.args) = commands := by
    rw [hfirst]
    exact d.args_started (trim "one") commands
  have hshown' : second.2.2.map (fun x => x.2.args) = commands := by
    rw [hsecond]
    exact d.args_started (trim " two ") commands
  refine ⟨hblind, ?_, hshown.trans hshown'.symm, ?_⟩
  · rw [hfirst, hsecond]
  · rw [hsecond, ← hshown, hcommands, htwo]
    rfl

end Dataspace
