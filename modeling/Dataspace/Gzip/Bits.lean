/-
Bytes that are read bit by bit.

The lowest bit of a byte comes first, and the first bit of a number is its lowest.
A reader takes bits or whole bytes off the front, and fails with a fault where they
end or hold what they must not.
-/
import Dataspace.Gzip.Fault
import Dataspace.Text.Utf8

namespace Dataspace.Gzip

open Text

/-- What is left to read: the bits of the byte that was begun, and the bytes after it. -/
structure Bits where
  begun : List Bool
  rest : Bytes
deriving DecidableEq

namespace Bits

/-- The bits of whole bytes. -/
def ofBytes (bytes : Bytes) : Bits := ⟨[], bytes⟩

/-- The number of bits. -/
def size (b : Bits) : Nat := b.begun.length + 8 * b.rest.length

/-- The bits of a byte above the lowest. -/
def upperBits (byte : UInt8) : List Bool :=
  [1, 2, 3, 4, 5, 6, 7].map byte.toNat.testBit

/-- The first bit and the bits after it. -/
def next? (b : Bits) : Option (Bool × Bits) :=
  match b.begun, b.rest with
  | bit :: begun, rest => some (bit, ⟨begun, rest⟩)
  | [], byte :: rest => some (byte.toNat.testBit 0, ⟨upperBits byte, rest⟩)
  | [], [] => none

/-- Reading a bit leaves one bit less. -/
theorem size_next? {b after : Bits} {bit : Bool} (h : b.next? = some (bit, after)) :
    after.size + 1 = b.size := by
  obtain ⟨begun, rest⟩ := b
  cases begun with
  | cons x begun =>
    simp only [next?, Option.some.injEq, Prod.mk.injEq] at h
    obtain ⟨-, rfl⟩ := h
    simp only [size, List.length_cons]
    omega
  | nil =>
    cases rest with
    | nil => simp [next?] at h
    | cons byte rest =>
      simp only [next?, Option.some.injEq, Prod.mk.injEq] at h
      obtain ⟨-, rfl⟩ := h
      simp only [size, upperBits, List.length_map, List.length_cons, List.length_nil]
      omega

end Bits

/-! ## Readers -/

/-- What takes bits off the front. -/
abbrev Reader (α : Type) := StateT Bits (Except Fault) α

namespace Reader

/-- One bit. -/
def bit : Reader Bool := fun b =>
  match b.next? with
  | some r => .ok r
  | none => .error .ended

/-- A number of so many bits, the lowest first. -/
def number : Nat → Reader Nat
  | 0 => return 0
  | n + 1 => do
    let low ← bit
    let high ← number n
    return low.toNat + 2 * high

/-- The rest of a byte that was begun is passed over. -/
def align : Reader Unit := modify fun b => { b with begun := [] }

/-- So many whole bytes. -/
def bytes (n : Nat) : Reader Bytes := fun b =>
  if b.rest.length < n then .error .ended else .ok (b.rest.take n, ⟨[], b.rest.drop n⟩)

/-- A number of so many whole bytes, the lowest first. -/
def word (n : Nat) : Reader Nat := do
  return (← bytes n).foldr (fun byte high => byte.toNat + 256 * high) 0

end Reader

example : ((Reader.number 3).run (.ofBytes [0x0E])).toOption.map (·.1) = some 6 := by
  decide +kernel
example : ((Reader.word 2).run (.ofBytes [0x01, 0x02])).toOption.map (·.1) = some 513 := by
  decide +kernel

end Dataspace.Gzip
