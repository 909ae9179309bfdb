/-
What the in-memory connector keeps.

Entities are kept by URI, links as pairs of a parent's and a child's URI in the
order in which they were made, and beside them the data set for artifacts, the
kinds that cannot be created, the agreements and the registry events.  The views
say what the rest of the connector asks: the kind of a URI, the children and the
parents of one, and how many entities there are.
-/
import Dataspace.Entity.Kind
import Dataspace.Text.Utf8

namespace Dataspace

open Text

/-- An entity: its kind and the fields it was created with. -/
structure Entity where
  kind : EntityKind
  fields : Json

/-- The state of an in-memory connector.  `issued` counts the UUIDs taken. -/
structure Store where
  entities : List (String × Entity)
  links : List (String × String)
  artifactData : List (String × Bytes)
  failing : List EntityKind
  agreements : List Json
  events : List Json
  issued : Nat

namespace Store

def empty : Store :=
  ⟨[], [], [], [], [], [], 0⟩

/-! ## Views -/

def entity? (s : Store) (uri : String) : Option Entity :=
  Keyed.lookup uri s.entities

def kindOf? (s : Store) (uri : String) : Option EntityKind :=
  (s.entity? uri).map Entity.kind

/-- The children of one kind, in the order in which they were linked. -/
def children (s : Store) (parent : String) (kind : EntityKind) : List String :=
  (s.links.filter fun l => l.1 == parent && s.kindOf? l.2 == some kind).map Prod.snd

/-- The parents of one kind, in the order in which they were linked. -/
def parents (s : Store) (child : String) (kind : EntityKind) : List String :=
  (s.links.filter fun l => l.2 == child && s.kindOf? l.1 == some kind).map Prod.fst

/-- The number of entities of a kind. -/
def count (s : Store) (kind : EntityKind) : Nat :=
  s.entities.countP fun e => e.2.kind == kind

/-- The URIs of the entities of a kind, in ascending order. -/
def urisOf (s : Store) (kind : EntityKind) : List String :=
  (s.entities.filter fun e => e.2.kind == kind).map Prod.fst

/-- The text of an entity's `value` field, empty if there is none. -/
def valueText (fields : Json) : String :=
  ((fields.get? "value").bind Json.asString?).getD ""

/-- The data served for an artifact: what was set, or else its value. -/
def dataOf? (s : Store) (artifact : String) : Option Bytes :=
  match Keyed.lookup artifact s.artifactData with
  | some data => some data
  | none => (s.entity? artifact).map fun e => Utf8.encode (valueText e.fields)

/-! ## Changes -/

/-- The store with an entity under a URI. -/
def addEntity (s : Store) (uri : String) (entity : Entity) : Store :=
  { s with entities := Keyed.insert uri entity s.entities }

/-- The store with a link at the end, unless it is there already. -/
def addLink (s : Store) (parent child : String) : Store :=
  if (parent, child) ∈ s.links then s
  else { s with links := s.links ++ [(parent, child)] }

/-- The store with links from a parent to each child in turn. -/
def addLinks (s : Store) (parent : String) (children : List String) : Store :=
  children.foldl (fun s child => s.addLink parent child) s

/-- The data served for an artifact from now on. -/
def setArtifactData (s : Store) (artifact : String) (data : Bytes) : Store :=
  { s with artifactData := Keyed.insert artifact data s.artifactData }

/-- From now on entities of the kind cannot be created. -/
def failCreates (s : Store) (kind : EntityKind) : Store :=
  { s with failing := if kind ∈ s.failing then s.failing else kind :: s.failing }

/-- One more UUID is taken. -/
def takeUuid (s : Store) : Store :=
  { s with issued := s.issued + 1 }

end Store

end Dataspace
