/-
Reading what is received.

A reader takes bytes off the front.  Where they end before it is done, the connection
was closed too early.
-/
import Dataspace.Http.Fault
import Dataspace.Text.Utf8

namespace Dataspace.Http

open Text

/-- What takes bytes off the front. -/
abbrev Reader (α : Type) := StateT Bytes (Except Fault) α

/-- The carriage return. -/
def carriageReturn : UInt8 := 0x0D

/-- The line feed. -/
def lineFeed : UInt8 := 0x0A

/-- Lengths have 64 bits. -/
def lengthBound : Nat := 0x10000000000000000

namespace Reader

/-- The first byte, which is left where it is. -/
def peek : Reader UInt8 := fun bytes =>
  match bytes with
  | [] => .error .closed
  | byte :: _ => .ok (byte, bytes)

/-- The first byte. -/
def byte : Reader UInt8 := fun bytes =>
  match bytes with
  | [] => .error .closed
  | byte :: rest => .ok (byte, rest)

/-- The first byte, if it is one of a class. -/
def byteOf (p : UInt8 → Bool) (otherwise : Fault) : Reader UInt8 := do
  let b ← byte
  if p b then return b else throw otherwise

/-- The given bytes. -/
def exactly (expected : Bytes) (otherwise : Fault) : Reader Unit :=
  expected.forM fun b => do let _ ← byteOf (· == b) otherwise

/-- The longest run of bytes of a class. -/
def takeWhile (p : UInt8 → Bool) : Reader Bytes := fun bytes =>
  .ok (bytes.takeWhile p, bytes.dropWhile p)

/-- So many bytes. -/
def take (n : Nat) : Reader Bytes := fun bytes =>
  if bytes.length < n then .error .closed else .ok (bytes.take n, bytes.drop n)

/-- The end of a line: a line feed, perhaps after a carriage return. -/
def lineEnd (otherwise : Fault) : Reader Unit := do
  let b ← byte
  if b = carriageReturn then exactly [lineFeed] otherwise
  else if b != lineFeed then throw otherwise

/-- A line: what stands before the first carriage return, after which a line feed is
awaited. -/
def line : Reader Bytes := fun bytes =>
  match bytes.dropWhile (· != carriageReturn) with
  | _ :: 0x0A :: rest => .ok (bytes.takeWhile (· != carriageReturn), rest)
  | _ => .error .closed

end Reader

end Dataspace.Http
