/-
Handles: the URIs by which entities are addressed.

A handle is read from a text that ends in `api/<collection>/<id>` once blanks
and then trailing slashes are taken off.  It keeps the shortened URI, the kind
that the collection stands for, and the id, which is the last segment.
-/
import Dataspace.Entity.Kind
import Dataspace.Text.Split

namespace Dataspace

/-- The URI of an entity, with the kind and id that it shows. -/
structure Handle where
  uri : String
  kind : EntityKind
  id : String
deriving DecidableEq

/-- Why a text is not the handle that was asked for. -/
inductive HandleFault where
  /-- The text does not end in `api/<collection>/<id>`. -/
  | shape
  /-- There is no such collection. -/
  | unknownCollection (name : String)
  /-- The id is empty. -/
  | emptyId
  /-- The handle is of another kind. -/
  | wrongKind (expected found : EntityKind)
  /-- Entities of the child's kind cannot be added to the parent's. -/
  | notAccepted (child parent : EntityKind)
deriving DecidableEq

/-- A text and why it is refused as a handle. -/
structure HandleError where
  uri : String
  fault : HandleFault
deriving DecidableEq

namespace HandleFault

def message : HandleFault → String
  | shape => "expected .../api/<collection>/<id>"
  | unknownCollection name => s!"unknown collection '{name}'"
  | emptyId => "empty id"
  | wrongKind expected found => s!"expected {expected.name} handle, found {found.name}"
  | notAccepted child parent => s!"a {child.name} cannot be added to a {parent.name}"

end HandleFault

namespace HandleError

def message (e : HandleError) : String :=
  s!"invalid handle '{e.uri}': {e.fault.message}"

end HandleError

namespace Handle

open Text

/-- The characters of a handle's URI: no blanks around it, then no slashes at its end. -/
def uriChars (cs : List Char) : List Char :=
  dropEndWhile (· == '/') (trimChars cs)

/-- The segments of a URI from its last one on. -/
def lastSegments (cs : List Char) : List String :=
  (pieces '/' cs).reverse.map String.ofList

/-- The kind and id that a URI ends in. -/
def address? (cs : List Char) : Except HandleFault (EntityKind × String) :=
  match lastSegments cs with
  | id :: collection :: "api" :: _ =>
    match EntityKind.ofCollection? collection with
    | none => .error (.unknownCollection collection)
    | some kind => if id.isEmpty then .error .emptyId else .ok (kind, id)
  | _ => .error .shape

/-- The handle that a text is. -/
def parse (s : String) : Except HandleError Handle :=
  let cs := uriChars s.toList
  match address? cs with
  | .ok (kind, id) => .ok ⟨String.ofList cs, kind, id⟩
  | .error fault => .error ⟨s, fault⟩

/-- The handle, if it is of the given kind. -/
def ofKind (kind : EntityKind) (h : Handle) : Except HandleError Handle :=
  if h.kind = kind then .ok h else .error ⟨h.uri, .wrongKind kind h.kind⟩

/-- The handle of the given kind that a text is. -/
def parseAs (kind : EntityKind) (s : String) : Except HandleError Handle :=
  (parse s).bind (ofKind kind)

/-- The URL of the entity's collection of `child` entities. -/
def relationUrl (h : Handle) (child : EntityKind) : String :=
  h.uri ++ "/" ++ child.collection

example : (parse " https://c/api/rules/7// ").toOption
    = some ⟨"https://c/api/rules/7", .rule, "7"⟩ := by decide +kernel
example : (parse "api/rules/").toOption = none := by decide +kernel

end Handle

end Dataspace
