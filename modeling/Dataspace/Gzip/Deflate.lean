/-
Packed data in blocks.

A block holds bytes as they are, or symbols of a code: bytes, the end of the block,
and repetitions of what was written before, each with a length and a distance back.
The codes of a block are fixed, or they stand at its beginning.  What a repetition
takes from before the first byte are zeros.
-/
import Dataspace.Gzip.Code

namespace Dataspace.Gzip

open Text

/-! ## Numbers with further bits -/

/-- The lengths of repetitions: of each symbol the least, and the bits to be added. -/
def lengthTable : List (Nat × Nat) :=
  [(3, 0), (4, 0), (5, 0), (6, 0), (7, 0), (8, 0), (9, 0), (10, 0), (11, 1), (13, 1), (15, 1),
   (17, 1), (19, 2), (23, 2), (27, 2), (31, 2), (35, 3), (43, 3), (51, 3), (59, 3), (67, 4),
   (83, 4), (99, 4), (115, 4), (131, 5), (163, 5), (195, 5), (227, 5), (258, 0)]

/-- The distances of repetitions: of each symbol the least, and the bits to be added. -/
def distanceTable : List (Nat × Nat) :=
  [(1, 0), (2, 0), (3, 0), (4, 0), (5, 1), (7, 1), (9, 2), (13, 2), (17, 3), (25, 3), (33, 4),
   (49, 4), (65, 5), (97, 5), (129, 6), (193, 6), (257, 7), (385, 7), (513, 8), (769, 8),
   (1025, 9), (1537, 9), (2049, 10), (3073, 10), (4097, 11), (6145, 11), (8193, 12),
   (12289, 12), (16385, 13), (24577, 13)]

/-- The number that a symbol and the bits after it stand for. -/
def measure (table : List (Nat × Nat)) (symbol : Nat) : Reader Nat := do
  match table[symbol]? with
  | none => throw .badBlock
  | some (least, bits) => return least + (← Reader.number bits)

/-! ## Symbols -/

/-- The codes of a block: one for bytes and lengths, one for distances. -/
structure Codes where
  literals : Code
  distances : Code
deriving DecidableEq

/-- The byte at a distance from the end. -/
def byteBack (out : Array UInt8) (distance : Nat) : UInt8 :=
  if distance ≤ out.size then out.getD (out.size - distance) 0 else 0

/-- So many bytes more, each the one at the distance back. -/
def repeated (distance : Nat) : Nat → Array UInt8 → Array UInt8
  | 0, out => out
  | n + 1, out => repeated distance n (out.push (byteBack out distance))

/-- The symbol that ends a block. -/
def blockEnd : Nat := 256

/-- The symbols of a block, up to its end; `fuel` is more than the bits that are left. -/
def symbols (codes : Codes) : (fuel : Nat) → Array UInt8 → Reader (Array UInt8)
  | 0, _ => throw .ended
  | fuel + 1, out => do
    let symbol ← codes.literals.read
    if symbol < blockEnd then symbols codes fuel (out.push (UInt8.ofNat symbol))
    else if symbol = blockEnd then return out
    else
      let length ← measure lengthTable (symbol - (blockEnd + 1))
      let distance ← measure distanceTable (← codes.distances.read)
      symbols codes fuel (repeated distance length out)

/-! ## Codes at the beginning of a block -/

/-- The lengths of the fixed codes. -/
def fixedLengths : List Nat × List Nat :=
  (List.replicate 144 8 ++ List.replicate 112 9 ++ List.replicate 24 7 ++ List.replicate 8 8,
   List.replicate 32 5)

/-- The codes with words of the given lengths. -/
def codesOf (lengths : List Nat × List Nat) : Reader Codes := do
  match Code.usable? lengths.1, Code.usable? lengths.2 with
  | some literals, some distances => return ⟨literals, distances⟩
  | _, _ => throw .badBlock

/-- The order in which the lengths for the code of lengths are given. -/
def lengthOrder : List Nat :=
  [16, 17, 18, 0, 8, 7, 9, 6, 10, 5, 11, 4, 12, 3, 13, 2, 14, 1, 15]

/-- So many lengths, of three bits each. -/
def shortLengths : Nat → Reader (List Nat)
  | 0 => return []
  | n + 1 => do
    let length ← Reader.number 3
    return length :: (← shortLengths n)

/-- The code of lengths. -/
def lengthCode (count : Nat) : Reader Code := do
  let given := lengthOrder.zip (← shortLengths count)
  match Code.complete? ((List.range lengthOrder.length).map fun n => (given.lookup n).getD 0) with
  | some code => return code
  | none => throw .badBlock

/-- How often a length is given, and the length: a symbol is a length, or it repeats the
last one or zero. -/
def lengthRun (code : Code) (last : Option Nat) : Reader (Nat × Nat) := do
  match ← code.read with
  | 16 =>
    match last with
    | none => throw .badBlock
    | some length => return (3 + (← Reader.number 2), length)
  | 17 => return (3 + (← Reader.number 3), 0)
  | 18 => return (11 + (← Reader.number 7), 0)
  | length => return (1, length)

/-- So many lengths in all; `fuel` is no less than their number. -/
def lengths (code : Code) : (fuel count : Nat) → (last : Option Nat) → Reader (List Nat)
  | _, 0, _ => return []
  | 0, _, _ => throw .badBlock
  | fuel + 1, count, last => do
    let (n, length) ← lengthRun code last
    if count < n then throw .badBlock
    return List.replicate n length ++ (← lengths code fuel (count - n) (some length))

/-- The greatest numbers of lengths for bytes and lengths, and for distances. -/
def maxLengths : Nat × Nat := (286, 30)

/-- The codes that stand at the beginning of a block. -/
def ownCodes : Reader Codes := do
  let literals := 257 + (← Reader.number 5)
  let distances := 1 + (← Reader.number 5)
  let count := 4 + (← Reader.number 4)
  if maxLengths.1 < literals || maxLengths.2 < distances then throw .badBlock
  let code ← lengthCode count
  let all ← lengths code (literals + distances) (literals + distances) none
  codesOf (all.take literals, all.drop literals)

/-! ## Blocks -/

/-- Bytes as they are, after their number and its complement. -/
def stored (out : Array UInt8) : Reader (Array UInt8) := do
  Reader.align
  let count ← Reader.word 2
  let complement ← Reader.word 2
  if count + complement != 0xFFFF then throw .badBlock
  return out ++ (← Reader.bytes count)

/-- Symbols of the codes. -/
def coded (codes : Codes) (out : Array UInt8) : Reader (Array UInt8) := do
  symbols codes ((← get).size + 1) out

/-- A block. -/
def block (out : Array UInt8) : Reader (Array UInt8) := do
  match ← Reader.number 2 with
  | 0 => stored out
  | 1 => coded (← codesOf fixedLengths) out
  | 2 => coded (← ownCodes) out
  | _ => throw .badBlock

/-- The blocks up to the last; `fuel` is more than the bits that are left. -/
def blocks : (fuel : Nat) → Array UInt8 → Reader (Array UInt8)
  | 0, _ => throw .ended
  | fuel + 1, out => do
    let last ← Reader.bit
    let out ← block out
    if last then return out else blocks fuel out

/-- The bytes that were packed. -/
def inflate : Reader Bytes := do
  let out ← blocks ((← get).size + 1) #[]
  Reader.align
  return out.toList

example : (inflate.run (.ofBytes [0x03, 0x00])).toOption.map (·.1) = some [] := by
  decide +kernel

end Dataspace.Gzip
