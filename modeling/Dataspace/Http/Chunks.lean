/-
Bodies in chunks.

Before each chunk stands a line with its length in hexadecimal digits, perhaps with
remarks after a semicolon, and after it the end of a line.  A chunk of length zero is
the last; one more line follows it, whatever it holds.
-/
import Dataspace.Http.Reader
import Dataspace.Text.Blank
import Dataspace.Text.Hex

namespace Dataspace.Http

open Text

namespace Chunks

/-- The greatest length of a line with the length of a chunk. -/
def maxLine : Nat := 20

/-- A number in hexadecimal digits, perhaps after a plus sign. -/
def length? (cs : List Char) : Option Nat :=
  let digits := match cs with
    | '+' :: rest => rest
    | cs => cs
  if digits.isEmpty then none else (hexNumber? digits).filter (· < lengthBound)

/-- The length that a line gives. -/
def lengthOf (line : Bytes) : Except ChunkFault Nat := do
  if maxLine < line.length then throw .notLength
  match Utf8.decode? (line.takeWhile (· != 0x3B)) with
  | none => throw .notText
  | some text =>
    match length? (trimChars text.toList) with
    | none => throw .notLength
    | some n => return n

/-- The chunks up to the last, joined; `fuel` is more than the bytes that are left. -/
def joined : (fuel : Nat) → Reader Bytes
  | 0 => throw .closed
  | fuel + 1 => do
    match lengthOf (← Reader.line) with
    | .error fault => throw (.chunk fault)
    | .ok 0 =>
      let _ ← Reader.line
      return []
    | .ok n =>
      let chunk ← Reader.take n
      Reader.exactly [carriageReturn, lineFeed] (.chunk .noLineEnd)
      return chunk ++ (← joined fuel)

/-- The body in chunks at the front. -/
def read : Reader Bytes := do
  joined ((← get).length + 1)

example : ((read.run (Utf8.encode "1;x\r\na\r\n2\r\nbc\r\n0\r\n\r\n")).toOption.map (·.1))
    = some (Utf8.encode "abc") := by decide +kernel
example : (read.run (Utf8.encode "1\r\nab\r\n0\r\n\r\n")).toOption.isNone = true := by
  decide +kernel

end Chunks

end Dataspace.Http
