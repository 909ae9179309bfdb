/-
The arguments of the program.

A command is named by the first word; options stand before or after it.  A flag has
no value; any other option has one, after an equals sign or as the next argument,
and the next argument may not look like an option.  No option is given twice in one
place.  `--config` and `--verbose` may stand on either side of the command, and the
one after it counts.  After `--` every argument is a word.
-/
import Dataspace.Command.Provision

namespace Dataspace

/-- What the program says instead of running a command. -/
inductive Notice where
  /-- The arguments are refused. -/
  | refused
  | help
  | version
deriving DecidableEq

/-- What an option takes, or does. -/
inductive OptionKind where
  | flag
  | text
  /-- A text that is not empty. -/
  | path
  | notice (n : Notice)
deriving DecidableEq

/-- An option: its name, perhaps a letter, and its kind. -/
structure OptionRule where
  name : String
  letter : Option Char
  kind : OptionKind
deriving DecidableEq

/-- The options given so far, with their values, and the words. -/
structure Given where
  options : List (String × String)
  words : List String
deriving DecidableEq

namespace Given

def none : Given :=
  ⟨[], []⟩

def has (g : Given) (name : String) : Bool :=
  g.options.any fun o => o.1 == name

def value? (g : Given) (name : String) : Option String :=
  g.options.lookup name

/-- With one more option, unless it was given already or its value will not do. -/
def withOption (g : Given) (rule : OptionRule) (value : String) : Except Notice Given :=
  match rule.kind with
  | .notice n => .error n
  | kind =>
    if g.has rule.name || (kind == .path && value.isEmpty) then .error .refused
    else .ok { g with options := (rule.name, value) :: g.options }

/-- With one more word, if there is room for it. -/
def withWord (room : Nat) (g : Given) (word : String) : Except Notice Given :=
  if g.words.length < room then .ok { g with words := g.words ++ [word] } else .error .refused

end Given

/-! ## Reading arguments -/

namespace Arguments

/-- The name of a long option and the value after an equals sign. -/
def longOption? (arg : String) : Option (String × Option String) :=
  match arg.toList with
  | '-' :: '-' :: cs =>
    let name := String.ofList (cs.takeWhile (· != '='))
    match cs.dropWhile (· != '=') with
    | [] => some (name, none)
    | _ :: value => some (name, some (String.ofList value))
  | _ => none

/-- The letters of short options. -/
def letters? (arg : String) : Option (List Char) :=
  match arg.toList with
  | '-' :: c :: cs => some (c :: cs)
  | _ => none

/-- An argument can be the value of the option before it. -/
def isValue (arg : String) : Bool :=
  (longOption? arg).isNone && (letters? arg).isNone

/-- Short options are flags, so their letters may stand together. -/
def readLetters (rules : List OptionRule) (g : Given) (letters : List Char) :
    Except Notice Given :=
  letters.foldlM
    (fun g c =>
      match rules.find? fun rule => rule.letter == some c with
      | some rule => g.withOption rule ""
      | none => .error .refused)
    g

/-- Reads arguments.  Where words are commands, reading ends before the first word;
otherwise there is room for so many words. -/
def read (rules : List OptionRule) (wordsAreCommands : Bool) (room : Nat) (g : Given) :
    List String → Except Notice (Given × List String)
  | [] => .ok (g, [])
  | arg :: rest =>
    if arg = "--" then
      if wordsAreCommands then .error .refused
      else (rest.foldlM (Given.withWord room) g).map fun g => (g, [])
    else match longOption? arg with
      | some (name, given) =>
        match rules.find? fun rule => rule.name == name with
        | none => .error .refused
        | some rule =>
          match rule.kind, given with
          | .text, some value | .path, some value =>
            match g.withOption rule value with
            | .ok g => read rules wordsAreCommands room g rest
            | .error n => .error n
          | .text, none | .path, none =>
            match rest with
            | value :: rest =>
              match isValue value, g.withOption rule value with
              | true, .ok g => read rules wordsAreCommands room g rest
              | _, _ => .error .refused
            | [] => .error .refused
          | _, some _ => .error .refused
          | _, none =>
            match g.withOption rule "" with
            | .ok g => read rules wordsAreCommands room g rest
            | .error n => .error n
      | none =>
        match letters? arg with
        | some letters =>
          match readLetters rules g letters with
          | .ok g => read rules wordsAreCommands room g rest
          | .error n => .error n
        | none =>
          if wordsAreCommands then .ok (g, arg :: rest)
          else match g.withWord room arg with
            | .ok g => read rules wordsAreCommands room g rest
            | .error n => .error n

/-! ## The options of the program -/

def flag (name : String) : OptionRule :=
  ⟨name, none, .flag⟩

def text (name : String) : OptionRule :=
  ⟨name, none, .text⟩

def path (name : String) : OptionRule :=
  ⟨name, none, .path⟩

/-- The options that may stand anywhere. -/
def anywhere : List OptionRule :=
  [path "config", ⟨"verbose", some 'v', .flag⟩, ⟨"help", some 'h', .notice .help⟩]

/-- The options before the command. -/
def beforeCommand : List OptionRule :=
  ⟨"version", some 'V', .notice .version⟩ :: anywhere

end Arguments

/-! ## Commands -/

/-- What the program is asked to do. -/
inductive CommandRequest where
  | init (profile : Profile)
  | provision (dryRun : Bool) (options : ProvisionOptions)
  | negotiate (dryRun : Bool) (recipient : Option String)
  | publishImage (dryRun : Bool) (resourceId : String) (version : Option String)
  | simulateEvent (dryRun : Bool) (resourceId : String) (tag : Option String)
  | artifact (uri : String) (withData : Bool) (directory : String)
deriving DecidableEq

/-- A request, and the configuration file if one is named. -/
structure Invocation where
  config : Option String
  request : CommandRequest
deriving DecidableEq

namespace Invocation

open Arguments

/-- The options of a command and how many words it takes. -/
def rules? : (command : String) → Option (List OptionRule × Nat)
  | "init" => some ([flag "local"], 0)
  | "provision" =>
    some ([flag "dry-run", flag "keep-going", flag "publish-image", flag "simulate-event",
      flag "download", path "out"], 0)
  | "negotiate" => some ([flag "dry-run", text "recipient"], 0)
  | "publish-image" => some ([text "resource-id", text "version", flag "dry-run"], 0)
  | "simulate-event" => some ([text "resource-id", text "tag", flag "dry-run"], 0)
  | "artifact" => some ([flag "data", path "out"], 1)
  | _ => none

/-- The directory for downloaded data. -/
def directory (g : Given) : String :=
  (g.value? "out").getD "."

def provisionOptions (g : Given) : ProvisionOptions where
  keepGoing := g.has "keep-going"
  publishImage := g.has "publish-image"
  simulateEvent := g.has "simulate-event"
  download := g.has "download"
  directory := directory g

/-- The request that a command with these arguments is, unless something is missing. -/
def request? (command : String) (g : Given) : Option CommandRequest :=
  let dryRun := g.has "dry-run"
  match command with
  | "init" => some (.init (if g.has "local" then .onLocalHost else .remote))
  | "provision" => some (.provision dryRun (provisionOptions g))
  | "negotiate" => some (.negotiate dryRun (g.value? "recipient"))
  | "publish-image" =>
    (g.value? "resource-id").map fun id => .publishImage dryRun id (g.value? "version")
  | "simulate-event" =>
    (g.value? "resource-id").map fun id => .simulateEvent dryRun id (g.value? "tag")
  | "artifact" => g.words.head?.map fun uri => .artifact uri (g.has "data") (directory g)
  | _ => none

/-- Help on a command, which has to be one. -/
def helpOn : List String → Notice
  | [] => .help
  | [command] => if command = "help" ∨ (rules? command).isSome then .help else .refused
  | _ => .refused

/-- What the arguments ask for. -/
def parse (args : List String) : Except Notice Invocation := do
  let (before, rest) ← read beforeCommand true 0 .none args
  match rest with
  | [] => throw .refused
  | "help" :: rest => throw (helpOn rest)
  | command :: rest =>
    match rules? command with
    | none => throw .refused
    | some (rules, room) =>
      let (after, _) ← read (rules ++ anywhere) false room .none rest
      match request? command after with
      | none => throw .refused
      | some request =>
        return ⟨(after.value? "config").orElse fun _ => before.value? "config", request⟩

example : (parse ["--config", "c", "init", "-v", "--local"]).toOption
    = some ⟨some "c", .init .onLocalHost⟩ := by decide +kernel
example : (parse ["provision", "--dry-run", "--dry-run"]).toOption = none := by decide +kernel
example : (parse ["artifact", "--", "-x"]).toOption
    = some ⟨none, .artifact "-x" false "."⟩ := by decide +kernel

end Invocation

end Dataspace
