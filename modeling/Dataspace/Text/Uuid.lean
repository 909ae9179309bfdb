/-
UUIDs.

A UUID is 128 bits.  It is written in lower case with hyphens after 8, 12, 16
and 20 digits.  Read are 32 digits without hyphens, the hyphenated form, and the
hyphenated form in braces or after `urn:uuid:`, in any letter case.
-/
import Dataspace.Text.Hex
import Dataspace.Text.Split

namespace Dataspace

/-- A word of 128 bits. -/
structure Uuid where
  bits : BitVec 128
deriving DecidableEq

namespace Uuid

open Text

/-! ## Writing -/

/-- The hyphenated form in lower case. -/
def chars (u : Uuid) : List Char :=
  let ds := hexDigits 32 u.bits.toNat
  ds.take 8 ++ '-' :: (ds.drop 8).take 4 ++ '-' :: (ds.drop 12).take 4
    ++ '-' :: (ds.drop 16).take 4 ++ '-' :: ds.drop 20

def text (u : Uuid) : String :=
  String.ofList u.chars

/-- The bits that are free in a UUID of version 4. -/
def freeBits : BitVec 128 :=
  0xffffffffffff0fff3fffffffffffffff

/-- The bits that are set in every UUID of version 4. -/
def versionBits : BitVec 128 :=
  0x00000000000040008000000000000000

/-- The UUID of version 4 that takes its free bits from a word. -/
def ofBits (word : BitVec 128) : Uuid :=
  ⟨word &&& freeBits ||| versionBits⟩

/-! ## Recognising -/

/-- So many hexadecimal digits and nothing else. -/
def isDigits (count : Nat) (cs : List Char) : Bool :=
  cs.length == count && cs.all isHexDigit

/-- Five groups of digits between hyphens. -/
def isHyphenated (cs : List Char) : Bool :=
  match pieces '-' cs with
  | [a, b, c, d, e] =>
    isDigits 8 a && isDigits 4 b && isDigits 4 c && isDigits 4 d && isDigits 12 e
  | _ => false

/-- What stands between braces. -/
def unbraced? : List Char → Option (List Char)
  | '{' :: cs => if cs.getLast? = some '}' then some cs.dropLast else none
  | _ => none

/-- What follows `urn:uuid:`. -/
def afterUrn? (cs : List Char) : Option (List Char) :=
  if (cs.take 9).map Char.toLower = "urn:uuid:".toList then some (cs.drop 9) else none

/-- The text is a UUID in one of the accepted forms. -/
def isText (s : String) : Bool :=
  let cs := s.toList
  isDigits 32 cs || isHyphenated cs || (unbraced? cs).any isHyphenated
    || (afterUrn? cs).any isHyphenated

example : isText "\x7b97FA143C-b19e-4b95-9ae9-9ec68ea880ad\x7d" = true := by decide +kernel
example : isText "URN:UUID:97fa143c-b19e-4b95-9ae9-9ec68ea880ad" = true := by decide +kernel
example : isText "97fa143cb19e4b959ae99ec68ea880ad" = true := by decide +kernel
example : isText "\x7b97fa143cb19e4b959ae99ec68ea880ad\x7d" = false := by decide +kernel
example : text ⟨0x9d000000000040008000000000000001⟩ = "9d000000-0000-4000-8000-000000000001" := by
  decide +kernel

example : text (ofBits (BitVec.allOnes 128)) = "ffffffff-ffff-4fff-bfff-ffffffffffff" := by
  decide +kernel

end Uuid

end Dataspace
