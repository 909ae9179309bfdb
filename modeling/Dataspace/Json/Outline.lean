/-
Outlines: where the records of a value are.

An array that stands for a record may hold more items than the record has fields
where the format of the text lets the surplus pass.  An outline says which arrays
stand for records and how many fields those have, so that the surplus can be cut
off before the record is read.
-/
import Dataspace.Json.Record

namespace Dataspace.Json

/-- What a place in a value is meant for: a record with its fields in order, a list
of equal things, or anything else. -/
inductive Outline where
  | value
  | list (item : Outline)
  | record (fields : List (String × Outline))

namespace Outline

/-- A record whose fields are no records. -/
def flat (names : List String) : Outline :=
  .record (names.map fun name => (name, .value))

/-! ## Cutting off what is no field -/

mutual

/-- The value without surplus items in the arrays that stand for records. -/
def trim : Outline → Json → Json
  | .value, v => v
  | .list item, .arr items => .arr (items.map (trim item))
  | .list _, v => v
  | .record fields, .arr items => .arr (trimItems fields items)
  | .record fields, .obj members =>
    .obj (members.map fun m => (m.1, trimMember fields m.1 m.2))
  | .record _, v => v

/-- The items that are fields. -/
def trimItems : List (String × Outline) → List Json → List Json
  | (_, field) :: fields, item :: items => trim field item :: trimItems fields items
  | _, _ => []

/-- A member of an object, trimmed if it is a field. -/
def trimMember : List (String × Outline) → String → Json → Json
  | [], _, v => v
  | (name, field) :: fields, key, v =>
    if name = key then trim field v else trimMember fields key v

end

/-- No more items are left than there are fields. -/
theorem length_trimItems_le (fields : List (String × Outline)) (items : List Json) :
    (trimItems fields items).length ≤ fields.length := by
  induction fields generalizing items with
  | nil => simp [trimItems]
  | cons f fields ih =>
    cases items with
    | nil => simp [trimItems]
    | cons item items => simpa [trimItems] using ih items

end Outline

end Dataspace.Json
