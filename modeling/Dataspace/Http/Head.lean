/-
Heads of replies.

A head is a line with the version and the status, then a line for each header, and an
empty line.  The names of headers are compared without their letter case.
-/
import Dataspace.Http.Reader
import Dataspace.Text.Blank

namespace Dataspace.Http

open Text

/-- A header; its name is kept in lower case. -/
structure Header where
  name : String
  value : Bytes
deriving DecidableEq

/-- The versions of the protocol. -/
inductive Version where
  | oneZero
  | oneOne
deriving DecidableEq

/-- The head of a reply. -/
structure Head where
  version : Version
  status : Nat
  headers : List Header
deriving DecidableEq

/-! ## Characters -/

/-- The characters of header names. -/
def isNameChar (c : Char) : Bool :=
  c.isAlphanum || c ∈ "!#$%&'*+-.^_`|~".toList

/-- The bytes of header names. -/
def isNameByte (b : UInt8) : Bool := isNameChar (Char.ofNat b.toNat)

/-- The bytes of header values and reasons: no control characters but the tab. -/
def isValueByte (b : UInt8) : Bool :=
  b = 0x09 || (0x20 ≤ b && b != 0x7F)

/-- The blank and the tab. -/
def isPad (b : UInt8) : Bool := b = 0x20 || b = 0x09

/-- The bytes of visible ASCII characters, the blank and the tab. -/
def isVisible (b : UInt8) : Bool :=
  b = 0x09 || (0x20 ≤ b && b < 0x7F)

/-! ## The first line -/

namespace Head

/-- Without the empty lines before it. -/
def dropEmptyLines : Bytes → Bytes
  | 0x0A :: rest => dropEmptyLines rest
  | 0x0D :: 0x0A :: rest => dropEmptyLines rest
  | bytes => bytes

/-- Passes over empty lines. -/
def skipEmptyLines : Reader Unit := do
  modify dropEmptyLines
  if (← Reader.peek) = carriageReturn then Reader.lineEnd (.head .newLine)

/-- The version and the blank after it. -/
def readVersion : Reader Version := do
  let fault := Fault.head .version
  Reader.exactly (Utf8.encode "HTTP/1.") fault
  let digit ← Reader.byteOf (fun b => b == 0x30 || b == 0x31) fault
  Reader.exactly (Utf8.encode " ") fault
  return if digit = 0x30 then .oneZero else .oneOne

/-- A digit. -/
def readDigit : Reader Nat := do
  let b ← Reader.byteOf (fun b => 0x30 ≤ b && b ≤ 0x39) (.head .status)
  return b.toNat - 0x30

/-- The status, which has three digits, and perhaps a reason. -/
def readStatus : Reader Nat := do
  let hundreds ← readDigit
  let tens ← readDigit
  let ones ← readDigit
  if (← Reader.peek) = 0x20 then
    let _ ← Reader.takeWhile isValueByte
  Reader.lineEnd (.head .status)
  return 100 * hundreds + 10 * tens + ones

/-! ## Headers -/

/-- A header and the end of its line.  Blanks around the value do not belong to it. -/
def readHeader : Reader Header := do
  let name ← Reader.takeWhile isNameByte
  if name.isEmpty then throw (.head .headerName)
  Reader.exactly (Utf8.encode ":") (.head .headerName)
  let value ← Reader.takeWhile isValueByte
  Reader.lineEnd (.head .headerValue)
  return {
    name := String.ofList (name.map fun b => (Char.ofNat b.toNat).toLower)
    value := dropEndWhile isPad (value.dropWhile isPad) }

/-- Whether a line ends here. -/
def atLineEnd : Reader Bool := do
  let b ← Reader.peek
  return b = carriageReturn || b = lineFeed

/-- The headers up to the empty line, no more than a number. -/
def readHeaders : (most : Nat) → Reader (List Header)
  | 0 => do
    if ← atLineEnd then
      Reader.lineEnd (.head .newLine)
      return []
    else throw .tooManyHeaders
  | most + 1 => do
    if ← atLineEnd then
      Reader.lineEnd (.head .newLine)
      return []
    else
      let first ← readHeader
      return first :: (← readHeaders most)

/-- The greatest number of headers. -/
def maxHeaders : Nat := 128

/-- A status has no leading zero. -/
def isStatus (status : Nat) : Bool := 100 ≤ status

/-- A head. -/
def read : Reader Head := do
  let start := (← get).length
  skipEmptyLines
  let version ← readVersion
  let status ← readStatus
  let headers ← readHeaders maxHeaders
  let length := start - (← get).length
  if Fault.maxHead < length then throw (.headTooLong length)
  if ! isStatus status then throw (.head .status)
  return ⟨version, status, headers⟩

/-! ## Looking up -/

/-- The values of the headers of a name, which is given in lower case. -/
def all (head : Head) (name : String) : List Bytes :=
  (head.headers.filter (·.name == name)).map (·.value)

/-- The value of the first header of a name, if it is visible text. -/
def text? (head : Head) (name : String) : Option String :=
  (head.all name).head?.bind fun value =>
    if value.all isVisible then some (String.ofList (value.map fun b => Char.ofNat b.toNat))
    else none

example : ((read.run (Utf8.encode "HTTP/1.1 200 OK\r\nA:  b \r\n\r\nc")).toOption.map fun r =>
    (r.1.status, r.1.text? "a", r.2)) = some (200, some "b", [0x63]) := by decide +kernel

end Head

end Dataspace.Http
