/-
The container engine behind the `docker` command line.

Every engine call starts the program once.  The password is given to `login` on
standard input and is no argument of any call.  A program that does not start, or
does not end with success, is an engine error with its trimmed error output; the
digest of a push is read from what the push wrote.
-/
import Dataspace.Program.Host
import Dataspace.Registry.Engine
import Dataspace.Text.Split

namespace Dataspace

open Text

/-! ## Digests in the output of a push -/

/-- The digest that a line reports: the first word after `digest: `, if it begins
with `sha256:`. -/
def lineDigest? (line : List Char) : Option String := do
  let (_, rest) ← cut? "digest: ".toList line
  let word ← (words rest).head?
  if "sha256:".toList.isPrefixOf word then some (String.ofList word) else none

/-- The digest of the first line that reports one. -/
def pushDigest? (output : String) : Option String :=
  (lines output.toList).findSome? lineDigest?

/-- The lines that are not blank, without the blanks around them. -/
def filledLines (output : String) : List String :=
  (lines output.toList).filterMap fun line => filled? (String.ofList line)

/-- The `docker` command line, under the name of its program. -/
structure Docker where
  program : String

namespace Docker

variable {η : Type}

/-- The program under its usual name. -/
def standard : Docker :=
  ⟨"docker"⟩

/-! ## Starting the program -/

/-- A program's name and its arguments cannot hold a NUL character. -/
def hasNul (program : String) (args : List String) : Bool :=
  (program :: args).any fun text => '\x00' ∈ text.toList

/-- Starts the program, unless no program can be started with these arguments. -/
def start (d : Docker) (host : ProgramHost η) (args : List String) (input : Option String)
    (s : η) : Except StartFault ProgramResult × η :=
  if hasNul d.program args then (.error .nulInArgument, s)
  else host.start d.program args input s

/-- The error of a call, which is named for the program and its first argument. -/
def failure (d : Docker) (args : List String) (detail : String) : RegistryError :=
  .engine (d.program ++ " " ++ args.head?.getD "") detail

/-- What the program wrote, if it ended with success. -/
def output (d : Docker) (args : List String) :
    Except StartFault ProgramResult → Except RegistryError String
  | .error fault => .error (d.failure args s!"cannot start {d.program}: {fault.message}")
  | .ok result =>
    if result.exit.isSuccess then .ok (Utf8.decodeLossy result.stdout)
    else
      let detail := trim (Utf8.decodeLossy result.stderr)
      .error (d.failure args s!"exit status {result.exit.text}: {detail}")

/-- Runs the program and gives what it wrote. -/
def run (d : Docker) (host : ProgramHost η) (args : List String) (input : Option String) :
    EngineRun η String := fun s =>
  let (ended, s) := d.start host args input s
  (d.output args ended, s)

/-! ## The engine -/

/-- The argument that has local images listed as `repository:tag`. -/
def imageFormat : String :=
  "\x7b\x7b.Repository\x7d\x7d:\x7b\x7b.Tag\x7d\x7d"

/-- The engine that starts the program for every call. -/
def engine (d : Docker) (host : ProgramHost η) : Engine η where
  login registry username password := do
    let _ ← d.run host ["login", registry, "--username", username, "--password-stdin"]
      (some password)
    return ()
  pull image := do
    let _ ← d.run host ["pull", image] none
    return ()
  tag source target := do
    let _ ← d.run host ["tag", source, target] none
    return ()
  push reference := do
    let written ← d.run host ["push", reference] none
    return pushDigest? written
  images := do
    let written ← d.run host ["images", "--format", imageFormat] none
    return filledLines written

end Docker

example : pushDigest? "x: Pushed\nlatest: digest: sha256:84 size: 1570\n" = some "sha256:84" := by
  decide +kernel
example : pushDigest? "digest: md5:1\n digest: " = none := by decide +kernel

end Dataspace
