/-
Decimals, and their value found in steps.

The digits of a written number are gathered in 64 bits.  Of the whole digits
that no longer fit only the count matters, and the digits of the fraction from
the first that does not fit are dropped.  The value is the gathered number,
rounded, times or divided by a power of ten, which is rounded itself, and the
result is rounded again.  So up to three roundings are made, and the value need
not be the floating-point number nearest to what is written.
-/
import Dataspace.Number.Binary64

namespace Dataspace.Number

/-- The number `digits · 10^exponent`. -/
structure Decimal where
  digits : Nat
  exponent : Int
deriving DecidableEq

/-! ## Gathering digits -/

/-- The first number that has more than 64 bits. -/
def wordLimit : Nat := 0x10000000000000000

/-- The value of a digit. -/
def digitValue (c : Char) : Nat :=
  c.toNat - 0x30

/-- Writes digits after those of `n` as long as the number has 64 bits, and gives the
digits from the first that does not fit. -/
def gather (n : Nat) : List Char → Nat × List Char
  | [] => (n, [])
  | c :: cs =>
    let longer := 10 * n + digitValue c
    if longer < wordLimit then gather longer cs else (n, c :: cs)

/-! ## The value in steps -/

namespace Binary64

/-- The greatest exponent with a finite power of ten. -/
def maxExponent : Nat := 308

/-- A power of ten, rounded. -/
def powerOfTen (n : Nat) : Nat :=
  ofNat (Nat.pow 10 n)

/-- A number divided by a power of ten, in several divisions if there is no such
finite power. -/
def divideByPower (units n : Nat) : Nat :=
  if n ≤ maxExponent then div units (powerOfTen n)
  else if units = 0 then 0
  else divideByPower (div units (powerOfTen maxExponent)) (n - maxExponent)
termination_by n
decreasing_by simp [maxExponent] at *; omega

/-- A number multiplied by a power of ten, unless that is out of range. -/
def multiplyByPower? (units n : Nat) : Option Nat :=
  if units = 0 then some 0
  else if n ≤ maxExponent then
    let product := mul units (powerOfTen n)
    if product < limit then some product else none
  else none

end Binary64

namespace Decimal

/-- The decimal with these digits before and after the point. -/
def ofDigits (whole fraction : List Char) (exponent : Int) : Decimal :=
  let (n, beyond) := gather 0 whole
  let (n, dropped) := gather n fraction
  ⟨n, exponent + beyond.length + dropped.length - fraction.length⟩

/-- The units of a decimal, unless that is out of range. -/
def units? (d : Decimal) : Option Nat :=
  let n := Binary64.ofNat d.digits
  if d.exponent < 0 then some (Binary64.divideByPower n (-d.exponent).toNat)
  else Binary64.multiplyByPower? n d.exponent.toNat

example : ofDigits "18446744073709551615".toList "9".toList 0
    = ⟨18446744073709551615, 0⟩ := by decide +kernel
example : ofDigits "184467440737095516160".toList "5".toList 0
    = ⟨18446744073709551615, 1⟩ := by decide +kernel

end Decimal

end Dataspace.Number
