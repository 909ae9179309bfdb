/-
Reading records from JSON.

A record is written as an object, and is read from an object or from an array
that lists its fields in order.  Members that are no field are ignored.  A field
that is missing takes its default if the record gives it one; an array may leave
out fields only from its end.  `null` stands for the absent value of an optional
field, and for nothing else.
-/
import Dataspace.Json.Basic

namespace Dataspace.Json

/-! ## The fields of a record -/

/-- What is given for each field of a record, in the order of `names`. -/
def fields? (names : List String) : Json → Option (List (Option Json))
  | .obj members => some (names.map fun name => Keyed.lookup name members)
  | .arr items =>
    if items.length ≤ names.length then
      some (items.map some ++ List.replicate (names.length - items.length) none)
    else none
  | _ => none

/-- A field that has to be there. -/
def required {α : Type} (read : Json → Option α) : Option Json → Option α
  | some v => read v
  | none => none

/-- A field with a default. -/
def withDefault {α : Type} (read : Json → Option α) (default : α) : Option Json → Option α
  | some v => read v
  | none => some default

/-! ## Readers of field values -/

/-- `null`, or a value. -/
def optional {α : Type} (read : Json → Option α) : Json → Option (Option α)
  | .null => some none
  | v => (read v).map some

/-- An array of values. -/
def listOf {α : Type} (read : Json → Option α) : Json → Option (List α)
  | .arr items => items.mapM read
  | _ => none

/-- A natural number below `bound`. -/
def natBelow (bound : Nat) (v : Json) : Option Nat :=
  (v.asIntWithin? 0 (bound - 1)).map Int.toNat

/-- One of a fixed set of names: the name as a text, or as the only member of an
object whose value is accepted by `isUnit`. -/
def name? (isUnit : Json → Bool) : Json → Option String
  | .str s => some s
  | .obj [(k, v)] => if isUnit v then some k else none
  | _ => none

/-- `null` is the value beside a name in the object form. -/
def isNull : Json → Bool
  | .null => true
  | _ => false

/-! ## Writers of optional members -/

/-- A member that is left out when there is no value. -/
def memberIf {α : Type} (key : String) (write : α → Json) : Option α → List (String × Json)
  | some a => [(key, write a)]
  | none => []

/-- A member that is left out when the list is empty. -/
def textsIf (key : String) : List String → List (String × Json)
  | [] => []
  | ss => [(key, texts ss)]

end Dataspace.Json
