/-
JSON values.

A number is an integer or a finite 64-bit float, and the two are kept apart: `1`
and `1.0` are different values with different texts.  The members of an object
are kept in ascending key order, so an object has one representation.
-/
import Dataspace.Keyed
import Dataspace.Number.Binary64

namespace Dataspace

open Number

/-- An integer written as one, or a float. -/
inductive JsonNumber where
  | int (value : Int)
  | float (value : Binary64)
deriving DecidableEq

/-- A JSON value. -/
inductive Json where
  | null
  | bool (value : Bool)
  | num (value : JsonNumber)
  | str (value : String)
  | arr (items : List Json)
  | obj (members : List (String × Json))

namespace Json

instance : Inhabited Json := ⟨.null⟩

/-! ## Making values -/

/-- The object with these members. -/
def object (members : List (String × Json)) : Json :=
  .obj (Keyed.ofList members)

/-- The integer. -/
def int (n : Int) : Json :=
  .num (.int n)

/-- The natural number. -/
def nat (n : Nat) : Json :=
  .num (.int n)

/-- The array of texts. -/
def texts (ss : List String) : Json :=
  .arr (ss.map .str)

/-- The value, or `null` for none. -/
def option {α : Type} (write : α → Json) : Option α → Json
  | none => .null
  | some a => write a

/-! ## Looking into values -/

/-- The member of an object under `key`; other values have no members. -/
def get? (key : String) : Json → Option Json
  | .obj members => Keyed.lookup key members
  | _ => none

/-- The first item of an array. -/
def first? : Json → Option Json
  | .arr (item :: _) => some item
  | _ => none

def asString? : Json → Option String
  | .str s => some s
  | _ => none

def asArray? : Json → Option (List Json)
  | .arr items => some items
  | _ => none

def asBool? : Json → Option Bool
  | .bool b => some b
  | _ => none

/-- The value of a number written as an integer. -/
def asInt? : Json → Option Int
  | .num (.int n) => some n
  | _ => none

/-- An integer within `low … high`. -/
def asIntWithin? (low high : Int) (v : Json) : Option Int :=
  v.asInt?.filter fun n => low ≤ n && n ≤ high

/-- A 64-bit signed integer. -/
def asInt64? : Json → Option Int :=
  asIntWithin? (-0x8000000000000000) 0x7fffffffffffffff

def isObject : Json → Bool
  | .obj _ => true
  | _ => false

/-- The object with `key` bound to `value`; other values have no such form. -/
def set? (v : Json) (key : String) (value : Json) : Option Json :=
  match v with
  | .obj members => some (.obj (Keyed.insert key value members))
  | _ => none

/-! ## How deep arrays and objects are nested -/

mutual

/-- The greatest number of arrays and objects around one place in the value. -/
def depth : Json → Nat
  | .arr items => depthItems items + 1
  | .obj members => depthMembers members + 1
  | _ => 0

def depthItems : List Json → Nat
  | [] => 0
  | v :: rest => max (depth v) (depthItems rest)

def depthMembers : List (String × Json) → Nat
  | [] => 0
  | (_, v) :: rest => max (depth v) (depthMembers rest)

end

end Json

end Dataspace
