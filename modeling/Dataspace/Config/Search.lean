/-
Finding and loading the configuration file.

The file is searched for in a directory and then in the directories above it.  The
nearest file that is looked up decides, also when it may not be read or is malformed.
-/
import Dataspace.Config.Basic
import Dataspace.Files.Disk

namespace Dataspace

/-- The name of the configuration file. -/
def configFileName : String := "idsprov.toml"

/-- Why a configuration file was not loaded. -/
inductive LoadFault where
  | unreadable (path : String) (fault : FileFault)
  /-- The file is no TOML document, or no configuration. -/
  | malformed (path : String)
deriving DecidableEq

namespace Path

/-- A path and the paths above it, nearest first. -/
def upwardFrom (fuel : Nat) (path : String) : List String :=
  match fuel with
  | 0 => [path]
  | fuel + 1 =>
    match parent? path with
    | some above => path :: upwardFrom fuel above
    | none => [path]

/-- A path and the paths above it; there are no more than the path has characters. -/
def upward (path : String) : List String :=
  upwardFrom path.length path

example : upward "/a/../b" = ["/a/../b", "/a/..", "/a", "/"] := by decide +kernel

end Path

namespace Configuration

/-- The configuration in a file. -/
def load (disk : Disk) (path : String) : Except LoadFault Configuration :=
  match disk.readText path with
  | .error fault => .error (.unreadable path fault)
  | .ok text =>
    match ofToml? text with
    | some c => .ok c
    | none => .error (.malformed path)

/-- The nearest directory with a configuration file. -/
def home? (disk : Disk) (start : String) : Option String :=
  (Path.upward start).find? fun directory => disk.isFile (Path.join directory configFileName)

/-- The nearest configuration with its directory, if there is one. -/
def find (disk : Disk) (start : String) : Except LoadFault (Option (Configuration × String)) :=
  match home? disk start with
  | none => .ok none
  | some directory =>
    (load disk (Path.join directory configFileName)).map fun c => some (c, directory)

end Configuration

end Dataspace
