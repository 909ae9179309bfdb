/-
Finite 64-bit floating-point numbers.

Every finite number of this format is a whole number of units of 2^-1074, so a
sign and a natural number represent it exactly and in one way.  A ratio is
rounded to the nearest representable number, a tie going to the even one; what
rounds to 2^1024 or beyond has no finite value.  Products and quotients are
rounded so as well.
-/

namespace Dataspace.Number

/-- The quotient rounded to the nearest integer, a tie to the even one. -/
def roundDiv (p q : Nat) : Nat :=
  let n := p / q
  let r := p % q
  if 2 * r < q then n
  else if q < 2 * r then n + 1
  else if n % 2 = 0 then n
  else n + 1

/-- A sign and a number of units of 2^-1074. -/
structure Binary64 where
  negative : Bool
  units : Nat
deriving DecidableEq, Inhabited

namespace Binary64

/-- The number of units in one. -/
def one : Nat := Nat.pow 2 1074

/-- The first number of units too large for a finite value. -/
def limit : Nat := Nat.pow 2 (1074 + 1024)

/-- The ratio `p / q` rounded to 53 significant bits. -/
def roundBits (p q : Nat) : Nat :=
  let bits := Nat.log2 (p / q) + 1
  if bits ≤ 53 then roundDiv p q
  else
    let grain := Nat.pow 2 (bits - 53)
    roundDiv p (q * grain) * grain

/-- The units nearest to `p / q`, unless that is out of range. -/
def unitsOfRatio? (p q : Nat) : Option Nat :=
  let u := roundBits (p * one) q
  if u < limit then some u else none

/-- The units nearest to `digits · 10^exponent`.  Far outside the range of the
format the exact power is not formed. -/
def unitsOfDecimal? (digits : Nat) (exponent : Int) : Option Nat :=
  if digits = 0 then some 0
  else
    let top : Int := (Nat.toDigits 10 digits).length + exponent
    if 310 < top then none
    else if top < -330 then some 0
    else if 0 ≤ exponent then unitsOfRatio? (digits * Nat.pow 10 exponent.toNat) 1
    else unitsOfRatio? digits (Nat.pow 10 (-exponent).toNat)

/-! ## Arithmetic on numbers of units

The results are rounded, and may lie beyond the range of finite values. -/

/-- A natural number. -/
def ofNat (n : Nat) : Nat :=
  roundBits (n * one) 1

/-- The product of two numbers. -/
def mul (a b : Nat) : Nat :=
  roundBits (a * b) one

/-- The quotient of two numbers. -/
def div (a b : Nat) : Nat :=
  roundBits (a * one) b

/-- A whole multiple of the divisor is its own rounded quotient. -/
theorem roundDiv_mul (n q : Nat) (h : 0 < q) : roundDiv (n * q) q = n := by
  simp [roundDiv, Nat.mul_div_cancel n h, h]

example : unitsOfDecimal? 1 0 = some one := by decide +kernel
example : unitsOfDecimal? 49 (-325) = some 1 := by decide +kernel
example : unitsOfDecimal? 1 400 = none := by decide +kernel
example : ofNat 9007199254740993 = ofNat 9007199254740992 := by decide +kernel
example : div (ofNat 1) (ofNat 10) = (unitsOfDecimal? 1 (-1)).getD 0 := by decide +kernel

end Binary64

end Dataspace.Number
