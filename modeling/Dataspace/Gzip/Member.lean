/-
Packed files.

A packed file is a sequence of members.  Each has a header, which may name the file
and hold a comment, then the packed data, and then the checksum and the length of
what was packed.
-/
import Dataspace.Gzip.Checksum
import Dataspace.Gzip.Deflate

namespace Dataspace.Gzip

open Text

/-! ## Headers -/

/-- The flags of a header: what stands in it beyond its fixed part. -/
structure Flags where
  checksum : Bool
  extra : Bool
  name : Bool
  comment : Bool
deriving DecidableEq

/-- The flags in a byte, whose upper bits have no meaning. -/
def Flags.ofByte? (byte : UInt8) : Option Flags :=
  if byte &&& 0xE0 = 0 then
    let has := byte.toNat.testBit
    some ⟨has 1, has 2, has 3, has 4⟩
  else none

/-- The length of the fixed part of a header. -/
def fixedLength : Nat := 10

/-- The greatest length of a name or a comment. -/
def maxField : Nat := 65535

/-- Passes over the further data of a header. -/
def skipExtra : Reader Unit := do
  let count ← Reader.word 2
  let _ ← Reader.bytes count

/-- Passes over a name or a comment, which a zero ends. -/
def skipText : Reader Unit := do
  let rest := (← get).rest
  let text := rest.takeWhile (· != 0)
  if maxField < text.length then throw .longField
  let _ ← Reader.bytes (text.length + 1)

/-- Passes over a header; its checksum, if it has one, must be right. -/
def skipHeader : Reader Unit := do
  let start := (← get).rest
  match ← Reader.bytes fixedLength with
  | 0x1F :: 0x8B :: 0x08 :: byte :: _ =>
    match Flags.ofByte? byte with
    | none => throw .badHeader
    | some flags =>
      if flags.extra then skipExtra
      if flags.name then skipText
      if flags.comment then skipText
      if flags.checksum then
        let passed := start.take (start.length - (← get).rest.length)
        if (← Reader.word 2) != (checksum passed).toNat % 0x10000 then throw .badChecksum
  | _ => throw .badHeader

/-! ## Members -/

/-- What a member holds. -/
def member : Reader Bytes := do
  skipHeader
  let content ← inflate
  let sum ← Reader.word 4
  let length ← Reader.word 4
  if sum != (checksum content).toNat || length != content.length % 0x100000000 then
    throw .badChecksum
  return content

/-- What the members hold, one at least; `fuel` is more than the bytes that are left. -/
def members : (fuel : Nat) → Reader Bytes
  | 0 => throw .ended
  | fuel + 1 => do
    let content ← member
    if (← get).rest.isEmpty then return content else return content ++ (← members fuel)

/-- What a packed file holds. -/
def unpack (packed : Bytes) : Except Fault Bytes :=
  (members (packed.length + 1)).run' (.ofBytes packed)

example : (unpack [0x1F, 0x8B, 8, 0, 0, 0, 0, 0, 2, 3, 3, 0, 0, 0, 0, 0, 0, 0, 0, 0]).toOption
    = some [] := by decide +kernel
example : (unpack [0x1F]).toOption = none := by decide +kernel

end Dataspace.Gzip
