/-
The shortest decimal that a given floating-point number is the nearest to.

A decimal reads back as the number if it is rounded to it.  For one digit, two digits and so on up to seventeen, the two neighbours of the
number on that decimal grid are tried; the first grid with a neighbour that
reads back wins, of two such neighbours the nearer, and of two equally near the
even one.  Should no grid have one, the exact decimal expansion is taken, which
every binary fraction has.  So the result always reads back.
-/
import Dataspace.Number.Decimal

namespace Dataspace.Number

namespace Decimal

/-- The same number without zeros at the end of its digits. -/
def stripZeros (fuel : Nat) (d : Decimal) : Decimal :=
  match fuel with
  | 0 => d
  | fuel + 1 =>
    if d.digits ≠ 0 ∧ d.digits % 10 = 0 then
      stripZeros fuel ⟨d.digits / 10, d.exponent + 1⟩
    else d

/-- The decimal is rounded to this many units. -/
def readsAs (units : Nat) (d : Decimal) : Bool :=
  Binary64.unitsOfDecimal? d.digits d.exponent == some units

end Decimal

namespace Binary64

/-- The exponent of the leading decimal digit of a positive number. -/
def leadingExponent (units : Nat) : Int :=
  let whole := units / one
  if whole ≠ 0 then (Nat.toDigits 10 whole).length - 1
  else match (List.range 325).find? fun j => decide (one ≤ units * Nat.pow 10 j) with
    | some j => - (j : Int)
    | none => -324

/-- The neighbour on the grid of `10^exponent` that reads back, if one does. -/
def nearestOnGrid? (units : Nat) (exponent : Int) : Option Decimal :=
  let p := units * Nat.pow 10 (-exponent).toNat
  let q := one * Nat.pow 10 exponent.toNat
  let below : Decimal := ⟨p / q, exponent⟩
  let above : Decimal := ⟨p / q + 1, exponent⟩
  let r := p % q
  let first := if 2 * r < q ∨ (2 * r = q ∧ (p / q) % 2 = 0) then below else above
  let second := if first = below then above else below
  [first, second].find? (Decimal.readsAs units)

/-- Every binary fraction is a decimal fraction. -/
def exactDecimal (units : Nat) : Decimal :=
  ⟨units * Nat.pow 5 1074, -1074⟩

/-- The shortest decimal that reads back as `units`. -/
def shortest (units : Nat) : Decimal :=
  let top := leadingExponent units
  let found := (List.range 17).findSome? fun (n : Nat) =>
    nearestOnGrid? units (top - n)
  (found.getD (exactDecimal units)).stripZeros 1500

example : shortest one = ⟨1, 0⟩ := by decide +kernel
example : shortest 1 = ⟨5, -324⟩ := by decide +kernel
example : (unitsOfDecimal? 18446744073709551616 0).map shortest
    = some ⟨18446744073709552, 3⟩ := by decide +kernel
example : (unitsOfDecimal? 1 23).map shortest = some ⟨1, 23⟩ := by decide +kernel
example : (unitsOfDecimal? 17976931348623157 292).map shortest
    = some ⟨17976931348623157, 292⟩ := by decide +kernel

end Binary64

end Dataspace.Number
