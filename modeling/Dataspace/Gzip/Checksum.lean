/-
The cyclic redundancy check of 32 bits.

The remainder of the message, read as a polynomial over two elements, by a fixed
polynomial of degree 32; the bits of a byte count from the lowest.
-/
import Dataspace.Text.Utf8

namespace Dataspace.Gzip

open Text

namespace Checksum

/-- The polynomial below its leading term, the lowest bit for the highest power. -/
def polynomial : UInt32 := 0xEDB88320

/-- One bit further. -/
def shift (r : UInt32) : UInt32 :=
  if r &&& 1 = 1 then (r >>> 1) ^^^ polynomial else r >>> 1

/-- One byte further. -/
def step (r : UInt32) (byte : UInt8) : UInt32 :=
  Nat.repeat shift 8 (r ^^^ byte.toUInt32)

end Checksum

/-- The checksum of bytes. -/
def checksum (bytes : Bytes) : UInt32 :=
  bytes.foldl Checksum.step 0xFFFFFFFF ^^^ 0xFFFFFFFF

example : checksum [] = 0 := by decide +kernel
example : checksum (Utf8.encode "123456789") = 0xCBF43926 := by decide +kernel

end Dataspace.Gzip
