/-
Files and directories.

A disk holds files and directories under absolute paths, written without empty
components, `.` and `..`, and has a working directory for relative paths.  A
path is resolved component by component, and everything it goes through has to
be a directory that may be searched, also where it goes up again.  What may not be
searched, read or written is known to the disk; whether something is there does not
depend on that, but a path cannot be followed past it.
-/
import Dataspace.Files.Fault
import Dataspace.Files.Path
import Dataspace.Keyed
import Dataspace.Text.Utf8

namespace Dataspace

open Text

/-- What a path can name. -/
inductive FileNode where
  | file (content : Bytes)
  | directory
deriving DecidableEq

/-- What is done with files and directories. -/
inductive Access where
  /-- Going through a directory. -/
  | search
  /-- Looking into a file. -/
  | read
  /-- Giving a file another content, or a directory another file. -/
  | write
deriving DecidableEq

/-- Files and directories by absolute path, the working directory, and what is refused.  The root
is always there and has the empty path. -/
structure Disk where
  workingDirectory : String
  nodes : List (String × FileNode)
  refused : List (Access × String) := []
deriving DecidableEq

namespace Disk

/-- The longest name of a file, in bytes. -/
def maxNameBytes : Nat := 255

/-- The longest path, in bytes, as it is given. -/
def maxPathBytes : Nat := 4095

/-- What is kept at an absolute path. -/
def node? (d : Disk) (path : String) : Option FileNode :=
  if path.isEmpty then some .directory else Keyed.lookup path d.nodes

/-- This may not be done with what is kept at an absolute path. -/
def refuses (d : Disk) (access : Access) (path : String) : Bool :=
  d.refused.contains (access, path)

/-- The same files and directories, of which none is refused. -/
def unrefused (d : Disk) : Disk :=
  { d with refused := [] }

/-! ## Resolving paths -/

/-- The path of the directory that holds `path`. -/
def above (path : String) : String :=
  (beforeLast? '/' path).getD ""

/-- Where a component leads from `base`, which has to be a directory, and one that may be searched
if the component is not empty. -/
def step (d : Disk) (base name : String) : Except FileFault String :=
  match d.node? base with
  | none => .error .notFound
  | some (.file _) => .error .notDirectory
  | some .directory =>
    if name = "" then .ok base
    else if d.refuses .search base then .error .denied
    else if name = "." then .ok base
    else if name = ".." then .ok (above base)
    else if maxNameBytes < (Utf8.encode name).length then .error .nameTooLong
    else .ok (base ++ "/" ++ name)

/-- Follows components from `base` on, one after the other. -/
def follow (d : Disk) (base : String) : List String → Except FileFault String
  | [] => .ok base
  | name :: rest => (d.step base name).bind fun place => d.follow place rest

/-- Where a path begins: at the root, or in the working directory, which need not be reached
again. -/
def origin (d : Disk) (path : String) : Except FileFault String :=
  if Path.isAbsolute path then .ok ""
  else d.unrefused.follow "" (Path.components d.workingDirectory)

/-- The absolute path that a path leads to; nothing need be there. -/
def resolve (d : Disk) (path : String) : Except FileFault String :=
  if '\x00' ∈ path.toList then .error .nulInPath
  else if maxPathBytes < (Utf8.encode path).length then .error .nameTooLong
  else if path.isEmpty then .error .notFound
  else (d.origin path).bind fun base => d.follow base (Path.components path)

/-- What a path names. -/
def find? (d : Disk) (path : String) : Option FileNode :=
  (d.resolve path).toOption.bind d.node?

def doesExist (d : Disk) (path : String) : Bool :=
  (d.find? path).isSome

def isFile (d : Disk) (path : String) : Bool :=
  match d.find? path with
  | some (.file _) => true
  | _ => false

/-! ## Reading and writing -/

/-- The content of a file. -/
def read (d : Disk) (path : String) : Except FileFault Bytes := do
  let target ← d.resolve path
  match d.node? target with
  | none => throw .notFound
  | some node =>
    if d.refuses .read target then throw .denied
    else match node with
      | .file content => return content
      | .directory => throw .isDirectory

/-- The content of a text file. -/
def readText (d : Disk) (path : String) : Except FileFault String := do
  match Utf8.decode? (← d.read path) with
  | some text => return text
  | none => throw .notText

/-- Gives a file this content; a new file needs its directory. -/
def write (d : Disk) (path : String) (content : Bytes) : Except FileFault Disk := do
  let target ← d.resolve path
  match d.node? target, d.node? (above target) with
  | some .directory, _ => throw .isDirectory
  | none, none => throw .notFound
  | none, some (.file _) => throw .notDirectory
  | node, _ =>
    if d.refuses .write (if node.isSome then target else above target) then throw .denied
    else return { d with nodes := Keyed.insert target (.file content) d.nodes }

/-- Makes a directory at an absolute path, with all above it. -/
def makeDirectory (d : Disk) (path : String) : Disk :=
  let step (acc : String × Disk) (name : String) : String × Disk :=
    if name = "" then acc
    else
      let here := acc.1 ++ "/" ++ name
      (here, if (acc.2.node? here).isSome then acc.2
        else { acc.2 with nodes := Keyed.insert here .directory acc.2.nodes })
  ((Path.components path).foldl step ("", d)).2

/-- The files below an absolute path, by what follows it and a slash, in order. -/
def filesBelow (d : Disk) (path : String) : List (String × Bytes) :=
  d.nodes.filterMap fun (p, node) =>
    match stripStart? (path ++ "/") p, node with
    | some name, .file content => some (name, content)
    | _, _ => none

/-- A disk with nothing but its working directory. -/
def empty (workingDirectory : String) : Disk :=
  makeDirectory { workingDirectory, nodes := [] } workingDirectory

example : ((empty "/w").write "a" [1]).toOption.map (·.filesBelow "/w")
    = some [("a", [1])] := by decide +kernel
example : ((empty "/w").write "b/a" [1]).toOption = none := by decide +kernel

end Disk

end Dataspace
