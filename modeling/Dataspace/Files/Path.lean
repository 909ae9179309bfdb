/-
Paths, as text.

A path is joined to a name with one slash, and an absolute name replaces what it
is joined to.  Going up drops the last component as it is written: `..` is a
component like any other, while empty components and `.` do not count, except
for a `.` that begins a relative path.
-/
import Dataspace.Text.Split

namespace Dataspace.Path

open Text

def isAbsolute (path : String) : Bool :=
  path.toList.head? == some '/'

/-- The path of `name` inside `directory`. -/
def join (directory name : String) : String :=
  if isAbsolute name || directory.isEmpty then name
  else if directory.toList.getLast? == some '/' then directory ++ name
  else directory ++ "/" ++ name

/-- The components of a path, empty ones included. -/
def components (path : String) : List String :=
  split '/' path

/-! ## Going up -/

/-- The path, in reverse, without empty components and `.` at its end; the root
slash stays. -/
def trimReversed : List Char → List Char
  | ['/'] => ['/']
  | '/' :: rest => trimReversed rest
  | ['.', '/'] => ['/']
  | '.' :: '/' :: rest => trimReversed rest
  | cs => cs

/-- The path without its last component, if it has one. -/
def parent? (path : String) : Option String :=
  match trimReversed path.toList.reverse with
  | [] => none
  | ['/'] => none
  | cs => some (String.ofList (trimReversed (cs.dropWhile (· != '/'))).reverse)

example : parent? "/d/a/../b" = some "/d/a/.." := by decide +kernel
example : parent? "/d/a/./" = some "/d" := by decide +kernel
example : parent? "/d" = some "/" := by decide +kernel
example : parent? "/" = none := by decide +kernel
example : join "/d/" "x" = "/d/x" := by decide +kernel

end Dataspace.Path
