/-
The SHA-256 digest.

The message is padded to blocks of 64 bytes; each block is expanded to 64 words
and mixed into eight chaining words, which are the digest after the last block.
-/
import Dataspace.Text.Hex

namespace Dataspace.Text.Sha256

/-! ## Constants -/

/-- The round constants. -/
def roundConstants : List UInt32 :=
  [0x428a2f98, 0x71374491, 0xb5c0fbcf, 0xe9b5dba5, 0x3956c25b, 0x59f111f1, 0x923f82a4,
   0xab1c5ed5, 0xd807aa98, 0x12835b01, 0x243185be, 0x550c7dc3, 0x72be5d74, 0x80deb1fe,
   0x9bdc06a7, 0xc19bf174, 0xe49b69c1, 0xefbe4786, 0x0fc19dc6, 0x240ca1cc, 0x2de92c6f,
   0x4a7484aa, 0x5cb0a9dc, 0x76f988da, 0x983e5152, 0xa831c66d, 0xb00327c8, 0xbf597fc7,
   0xc6e00bf3, 0xd5a79147, 0x06ca6351, 0x14292967, 0x27b70a85, 0x2e1b2138, 0x4d2c6dfc,
   0x53380d13, 0x650a7354, 0x766a0abb, 0x81c2c92e, 0x92722c85, 0xa2bfe8a1, 0xa81a664b,
   0xc24b8b70, 0xc76c51a3, 0xd192e819, 0xd6990624, 0xf40e3585, 0x106aa070, 0x19a4c116,
   0x1e376c08, 0x2748774c, 0x34b0bcb5, 0x391c0cb3, 0x4ed8aa4a, 0x5b9cca4f, 0x682e6ff3,
   0x748f82ee, 0x78a5636f, 0x84c87814, 0x8cc70208, 0x90befffa, 0xa4506ceb, 0xbef9a3f7,
   0xc67178f2]

/-- The eight chaining words. -/
structure Chain where
  a : UInt32
  b : UInt32
  c : UInt32
  d : UInt32
  e : UInt32
  f : UInt32
  g : UInt32
  h : UInt32

/-- The chaining words before the first block. -/
def start : Chain :=
  ⟨0x6a09e667, 0xbb67ae85, 0x3c6ef372, 0xa54ff53a, 0x510e527f, 0x9b05688c, 0x1f83d9ab,
   0x5be0cd19⟩

/-! ## Padding and words -/

/-- A number in eight bytes, the most significant first. -/
def eightBytes (n : Nat) : Bytes :=
  (List.range 8).map fun i => UInt8.ofNat (n >>> (8 * (7 - i)))

/-- The message, a one bit, zeros up to eight bytes short of a block, and the
length in bits. -/
def padded (message : Bytes) : Bytes :=
  let zeros := (55 + 64 - message.length % 64) % 64
  message ++ 0x80 :: List.replicate zeros 0 ++ eightBytes (8 * message.length)

/-- The words of four bytes each, the first byte the most significant, after those
of `done` in reverse. -/
def wordsFrom (done : List UInt32) : Bytes → List UInt32
  | a :: b :: c :: d :: rest =>
    wordsFrom
      (UInt32.ofNat (((a.toNat * 256 + b.toNat) * 256 + c.toNat) * 256 + d.toNat) :: done) rest
  | _ => done.reverse

/-- The four bytes of a word. -/
def bytesOf (w : UInt32) : Bytes :=
  [UInt8.ofNat (w.toNat / 16777216), UInt8.ofNat (w.toNat / 65536),
   UInt8.ofNat (w.toNat / 256), UInt8.ofNat w.toNat]

/-! ## Mixing -/

def rotate (w n : UInt32) : UInt32 :=
  (w >>> n) ||| (w <<< (32 - n))

/-- The next word of the expansion, from the words so far. -/
def nextWord (w : Array UInt32) : UInt32 :=
  let at' (back : Nat) : UInt32 := w.getD (w.size - back) 0
  let x := at' 15
  let y := at' 2
  let small0 := rotate x 7 ^^^ rotate x 18 ^^^ (x >>> 3)
  let small1 := rotate y 17 ^^^ rotate y 19 ^^^ (y >>> 10)
  at' 16 + small0 + at' 7 + small1

/-- The sixteen words of a block and the forty-eight that follow from them. -/
def expand (block : List UInt32) : Array UInt32 :=
  (List.range 48).foldl (fun w _ => w.push (nextWord w)) block.toArray

/-- One round with its word and constant. -/
def round (s : Chain) (word constant : UInt32) : Chain :=
  let big1 := rotate s.e 6 ^^^ rotate s.e 11 ^^^ rotate s.e 25
  let choice := (s.e &&& s.f) ^^^ ((s.e ^^^ 0xffffffff) &&& s.g)
  let first := s.h + big1 + choice + constant + word
  let big0 := rotate s.a 2 ^^^ rotate s.a 13 ^^^ rotate s.a 22
  let majority := (s.a &&& s.b) ^^^ (s.a &&& s.c) ^^^ (s.b &&& s.c)
  ⟨first + big0 + majority, s.a, s.b, s.c, s.d + first, s.e, s.f, s.g⟩

/-- One block mixed into the chain. -/
def compress (s : Chain) (block : List UInt32) : Chain :=
  let t := ((expand block).toList.zip roundConstants).foldl (fun t p => round t p.1 p.2) s
  ⟨s.a + t.a, s.b + t.b, s.c + t.c, s.d + t.d, s.e + t.e, s.f + t.f, s.g + t.g, s.h + t.h⟩

/-- The blocks of sixteen words mixed in one after the other. -/
def absorb (s : Chain) (ws : List UInt32) : Chain :=
  match ws with
  | [] => s
  | w :: rest => absorb (compress s ((w :: rest).take 16)) (rest.drop 15)
  termination_by ws.length
  decreasing_by simp only [List.length_drop, List.length_cons]; omega

/-- The digest of a message, in hexadecimal. -/
def hex (message : Bytes) : String :=
  let s := absorb start (wordsFrom [] (padded message))
  hexText ([s.a, s.b, s.c, s.d, s.e, s.f, s.g, s.h].flatMap bytesOf)

example : hex (Utf8.encode "abc")
    = "ba7816bf8f01cfea414140de5dae2223b00361a396177a9cb410ff61f20015ad" := by decide +kernel

end Dataspace.Text.Sha256
