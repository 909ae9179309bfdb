/-
Tables under construction.

A TOML document fills one table bit by bit.  Headers open tables, assignments put
values under dotted keys, and each may create the tables on its way.  What may
still be added to a table depends on how it came to be: a table is opened by a
header only once, dotted keys add to no table that a header opened or passed, and
no key is assigned twice.
-/
import Dataspace.Json.Basic

namespace Dataspace.Toml

/-- How a table came to be: opened by a header, passed on the way to a header's
table, or passed by a dotted key. -/
inductive Origin where
  | header
  | passed
  | dotted
deriving DecidableEq

/-- What a key is bound to.  The tables of an array are kept with the last one first. -/
inductive Item where
  | value (v : Json)
  | table (origin : Origin) (members : List (String × Item))
  | tables (rows : List (List (String × Item)))

/-- The members of a table under construction. -/
abbrev Table := List (String × Item)

/-! ## The finished value -/

mutual

def Item.toJson : Item → Json
  | .value v => v
  | .table _ members => .obj (membersJson members)
  | .tables rows => .arr (rowsJson [] rows)

def membersJson : List (String × Item) → List (String × Json)
  | [] => []
  | (k, item) :: rest => (k, item.toJson) :: membersJson rest

/-- The rows in the order of the document, before those of `done`. -/
def rowsJson (done : List Json) : List (List (String × Item)) → List Json
  | [] => done
  | row :: rest => rowsJson (.obj (membersJson row) :: done) rest

end

/-! ## Changing a table deep inside -/

/-- Changes the table that `path` leads to from a table of the given origin.  Tables
that are missing are created; of an array of tables the last is meant.  A dotted
key does not pass a table that a header opened, but does pass an array of tables. -/
def change (dotted : Bool) (f : Origin → Table → Option Table) :
    (path : List String) → Origin → Table → Option Table
  | [], origin, t => f origin t
  | k :: path, _, t =>
    match Keyed.lookup k t with
    | none =>
      let origin := if dotted then .dotted else .passed
      (change dotted f path origin []).map fun sub => Keyed.insert k (.table origin sub) t
    | some (.table origin sub) =>
      if dotted && origin == .header then none
      else (change dotted f path origin sub).map fun sub => Keyed.insert k (.table origin sub) t
    | some (.tables (last :: earlier)) =>
      (change dotted f path .header last).map fun last =>
        Keyed.insert k (.tables (last :: earlier)) t
    | some _ => none

/-- The members before the last, and the last. -/
def splitPath (path : List String) : List String × String :=
  (path.dropLast, path.getLast?.getD "")

/-- Binds a dotted key to a value; the table it is bound in has to be made by dotted
keys alone. -/
def assign (path : List String) (v : Json) (t : Table) : Option Table :=
  let (way, key) := splitPath path
  let bind (origin : Origin) (t : Table) : Option Table :=
    if (! way.isEmpty) && origin != .dotted then none
    else if Keyed.contains key t then none
    else some (Keyed.insert key (.value v) t)
  change true bind way .header t

/-- Opens the table of a header. -/
def openTable (path : List String) (t : Table) : Option Table :=
  let (way, key) := splitPath path
  let make (_ : Origin) (t : Table) : Option Table :=
    match Keyed.lookup key t with
    | none => some (Keyed.insert key (.table .header []) t)
    | some (.table .passed sub) => some (Keyed.insert key (.table .header sub) t)
    | some _ => none
  change false make way .header t

/-- Opens one more table of an array of tables. -/
def openRow (path : List String) (t : Table) : Option Table :=
  let (way, key) := splitPath path
  let make (_ : Origin) (t : Table) : Option Table :=
    match Keyed.lookup key t with
    | none => some (Keyed.insert key (.tables [[]]) t)
    | some (.tables rows) => some (Keyed.insert key (.tables ([] :: rows)) t)
    | some _ => none
  change false make way .header t

/-- Binds a dotted key to a value in the table that a header opened last. -/
def assignUnder (header path : List String) (v : Json) (t : Table) : Option Table :=
  change false (fun _ => assign path v) header .header t

end Dataspace.Toml
