/-
Finite maps from text, as lists of pairs in strictly ascending key order.

Objects are printed, and stored entities listed, in the order of their keys;
keeping the pairs sorted makes that order part of the value.  The order is that
of code points, which is also the order of the UTF-8 bytes.
-/

namespace Dataspace.Keyed

variable {α : Type}

/-- The value kept under `key`. -/
def lookup (key : String) : List (String × α) → Option α
  | [] => none
  | (k, v) :: rest => if k = key then some v else lookup key rest

/-- Keeps `value` under `key`, in place of what was kept there. -/
def insert (key : String) (value : α) : List (String × α) → List (String × α)
  | [] => [(key, value)]
  | (k, v) :: rest =>
    if k = key then (key, value) :: rest
    else if key < k then (key, value) :: (k, v) :: rest
    else (k, v) :: insert key value rest

/-- The map of a list of pairs; of two pairs with one key the later counts. -/
def ofList (pairs : List (String × α)) : List (String × α) :=
  pairs.foldl (fun m p => insert p.1 p.2 m) []

/-- Whether anything is kept under `key`. -/
def contains (key : String) (m : List (String × α)) : Bool :=
  (lookup key m).isSome

/-! ## What insertion does to look-up -/

theorem lookup_insert_self (key : String) (value : α) (m : List (String × α)) :
    lookup key (insert key value m) = some value := by
  induction m with
  | nil => simp [insert, lookup]
  | cons p rest ih =>
    simp only [insert]
    split
    · simp [lookup]
    · split
      · simp [lookup]
      · simp_all [lookup]

theorem lookup_insert_of_ne {key other : String} (h : other ≠ key) (value : α)
    (m : List (String × α)) : lookup other (insert key value m) = lookup other m := by
  induction m with
  | nil => simp [insert, lookup, Ne.symm h]
  | cons p rest ih =>
    simp only [insert]
    split
    · simp_all [lookup, Ne.symm h]
    · split
      · simp_all [lookup, Ne.symm h]
      · simp_all [lookup]

/-- Look-up after insertion, in one equation. -/
theorem lookup_insert (key other : String) (value : α) (m : List (String × α)) :
    lookup other (insert key value m) = if other = key then some value else lookup other m := by
  by_cases h : other = key
  · subst h; simp [lookup_insert_self]
  · simp [h, lookup_insert_of_ne h]

end Dataspace.Keyed
