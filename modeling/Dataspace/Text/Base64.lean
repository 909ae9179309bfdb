/-
Base64 with the standard alphabet and padding, as basic credentials are sent.
-/
import Dataspace.Text.Utf8

namespace Dataspace.Text.Base64

/-- The digit of a number below sixty-four. -/
def digit (n : Nat) : Char :=
  if n < 26 then Char.ofNat (0x41 + n)
  else if n < 52 then Char.ofNat (0x61 + (n - 26))
  else if n < 62 then Char.ofNat (0x30 + (n - 52))
  else if n = 62 then '+'
  else '/'

/-- Three bytes at a time become four digits; one or two left over are padded. -/
def encodeChars : Bytes → List Char
  | [] => []
  | [a] =>
    let n := a.toNat * 16
    [digit (n / 64), digit (n % 64), '=', '=']
  | [a, b] =>
    let n := (a.toNat * 256 + b.toNat) * 4
    [digit (n / 4096), digit (n / 64 % 64), digit (n % 64), '=']
  | a :: b :: c :: rest =>
    let n := (a.toNat * 256 + b.toNat) * 256 + c.toNat
    digit (n / 262144) :: digit (n / 4096 % 64) :: digit (n / 64 % 64) :: digit (n % 64)
      :: encodeChars rest

/-- The Base64 text of bytes. -/
def encode (bytes : Bytes) : String :=
  String.ofList (encodeChars bytes)

/-- Every started group of three bytes takes four characters. -/
theorem length_encodeChars (bytes : Bytes) :
    (encodeChars bytes).length = (bytes.length + 2) / 3 * 4 := by
  fun_induction encodeChars bytes with
  | case1 => simp
  | case2 => simp
  | case3 => simp
  | case4 a b c rest n ih => simp only [List.length_cons, ih]; omega

example : encode (Utf8.encode "ü:pä🦀") = "w7w6cMOk8J+mgA==" := by decide +kernel
example : encode (Utf8.encode "a:b") = "YTpi" := by decide +kernel

end Dataspace.Text.Base64
