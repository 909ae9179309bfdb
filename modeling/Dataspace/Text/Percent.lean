/-
Percent-encoding of query keys and values.

ASCII letters, digits and eight marks stand for themselves; every other byte of
the UTF-8 form is written as `%` and two upper-case digits.
-/
import Dataspace.Text.Hex

namespace Dataspace.Text.Percent

/-- The characters written as they are. -/
def isPlain (c : Char) : Bool :=
  c.isAlphanum || c ∈ ['!', '(', ')', '*', '-', '.', '_', '~']

/-- One byte, escaped. -/
def escape (b : UInt8) : List Char :=
  ['%', hexDigitUpper (b.toNat / 16), hexDigitUpper (b.toNat % 16)]

/-- One character: itself, or its bytes escaped. -/
def encodeChar (c : Char) : List Char :=
  if isPlain c then [c] else (String.utf8EncodeChar c).flatMap escape

/-- The text with everything escaped that is not plain. -/
def encode (s : String) : String :=
  String.ofList (s.toList.flatMap encodeChar)

/-- Keys and values joined with `=` and `&`. -/
def query (pairs : List (String × String)) : String :=
  "&".intercalate (pairs.map fun (k, v) => encode k ++ "=" ++ encode v)

example : encode "a&b=c dé" = "a%26b%3Dc%20d%C3%A9" := by decide +kernel

end Dataspace.Text.Percent
