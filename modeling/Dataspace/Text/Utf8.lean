/-
UTF-8.

`encode` writes a text as bytes.  Reading is one pass over the bytes with a
small state: either between characters, or inside one with a number of bytes
still owed and a range for the next one.  The pass gives one entry for each
character and one for each malformed run, a malformed run being as long as it
could still have become a character.  Strict reading wants every entry to be a
character; lenient reading shows U+FFFD for the others.
-/

namespace Dataspace.Text

/-- A sequence of bytes: the body of a request or response, or a file's content. -/
abbrev Bytes := List UInt8

namespace Utf8

/-- The bytes of a text. -/
def encode (s : String) : Bytes :=
  s.toList.flatMap String.utf8EncodeChar

/-! ## One byte at a time -/

/-- Between characters, or inside one: `owed` more bytes, the next within
`low … high`, `value` read so far. -/
inductive State where
  | between
  | inside (owed value low high : Nat)

/-- What a byte begins: an ASCII character, a longer one, or nothing. -/
def lead (b : Nat) : State × List (Option Char) :=
  if b < 0x80 then (.between, [some (Char.ofNat b)])
  else if b < 0xC2 then (.between, [none])
  else if b < 0xE0 then (.inside 1 (b - 0xC0) 0x80 0xBF, [])
  else if b = 0xE0 then (.inside 2 0 0xA0 0xBF, [])
  else if b = 0xED then (.inside 2 0xD 0x80 0x9F, [])
  else if b < 0xF0 then (.inside 2 (b - 0xE0) 0x80 0xBF, [])
  else if b = 0xF0 then (.inside 3 0 0x90 0xBF, [])
  else if b < 0xF4 then (.inside 3 (b - 0xF0) 0x80 0xBF, [])
  else if b = 0xF4 then (.inside 3 4 0x80 0x8F, [])
  else (.between, [none])

/-- One byte: it continues the open character, or ends it as malformed and
begins anew. -/
def step (state : State) (b : Nat) : State × List (Option Char) :=
  match state with
  | .between => lead b
  | .inside owed value low high =>
    if low ≤ b ∧ b ≤ high then
      let value := value * 64 + (b - 0x80)
      if owed ≤ 1 then (.between, [some (Char.ofNat value)])
      else (.inside (owed - 1) value 0x80 0xBF, [])
    else
      let (next, out) := lead b
      (next, none :: out)

/-- An open character at the end is a malformed run. -/
def close : State → List (Option Char)
  | .between => []
  | .inside .. => [none]

/-- The entries of `bytes` from `state` on, after those of `done` in reverse. -/
def scanFrom (state : State) (done : List (Option Char)) : Bytes → List (Option Char)
  | [] => done.reverse ++ close state
  | b :: rest =>
    let (next, out) := step state b.toNat
    scanFrom next (out.reverse ++ done) rest

/-- Characters and malformed runs, in order. -/
def scan (bytes : Bytes) : List (Option Char) :=
  scanFrom .between [] bytes

/-! ## The two readings -/

/-- The text, if every byte belongs to a character. -/
def decode? (bytes : Bytes) : Option String :=
  ((scan bytes).mapM id).map String.ofList

/-- The text, with U+FFFD for each malformed run. -/
def decodeLossy (bytes : Bytes) : String :=
  String.ofList ((scan bytes).map fun entry => entry.getD '\uFFFD')

example : decode? (encode "aé😀") = some "aé😀" := by decide +kernel
example : decodeLossy [0x61, 0xE2, 0x82, 0x62, 0xFF] = "a\uFFFDb\uFFFD" := by decide +kernel
example : decode? [0xED, 0xA0, 0x80] = none := by decide +kernel

end Utf8

end Dataspace.Text
