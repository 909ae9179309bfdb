/-
Replies.

A reply is a head and a body.  Interim replies may come before the final one.  The
headers say where the body ends: after the last chunk, after a number of bytes, or
where the connection is closed; some statuses have no body.  A body may be packed.
-/
import Dataspace.Exchange.Request
import Dataspace.Gzip.Member
import Dataspace.Http.Chunks
import Dataspace.Http.Head
import Dataspace.Text.Split

namespace Dataspace.Http

open Text

/-! ## Statuses -/

/-- The status that bids to go on with the request. -/
def continuing : Nat := 100

/-- The status with which a connection leaves the protocol. -/
def switching : Nat := 101

/-- After replies with these statuses the final one is still to come. -/
def isInterim (status : Nat) : Bool :=
  status < 200 && status != switching

/-- Replies with these statuses have no body. -/
def isBodiless (status : Nat) : Bool :=
  status = switching || status = 204 || status = 304

/-- These statuses lead elsewhere; their replies have a body only if a header says so. -/
def isRedirection (status : Nat) : Bool :=
  300 ≤ status && status < 400

/-- The head of the final reply; `fuel` is more than the bytes that are left. -/
def finalHead : (fuel : Nat) → Reader Head
  | 0 => throw .closed
  | fuel + 1 => do
    let head ← Head.read
    if head.status = continuing && ! head.headers.isEmpty then throw .headersBeforeFinal
    if isInterim head.status then finalHead fuel else return head

/-! ## Where bodies end -/

/-- How the end of a body is known. -/
inductive Framing where
  | empty
  | chunks
  | length (n : Nat)
  | close
deriving DecidableEq

/-- A length in decimal digits. -/
def length? (value : Bytes) : Option Nat :=
  let n := value.foldl (fun n b => 10 * n + (b.toNat - 0x30)) 0
  if ! value.isEmpty && value.all (fun b => 0x30 ≤ b && b ≤ 0x39) && n < lengthBound then some n
  else none

namespace Head

/-- The length of the body, if it is given; given more than once, it must be the same. -/
def length? (head : Head) : Except Fault (Option Nat) := do
  let lengths ← (head.all "content-length").mapM fun value =>
    match Http.length? value with
    | some n => .ok n
    | none => .error Fault.badLength
  match lengths with
  | [] => return none
  | n :: rest => if rest.all (· == n) then return some n else throw .lengthsDiffer

/-- The body is in chunks. -/
def isChunked (head : Head) : Bool :=
  let names := (head.text? "transfer-encoding").map (split ',')
  let isName (s : String) : Bool := (trim s).toList.map Char.toLower == "chunked".toList
  head.version == .oneOne && (names.getD []).any isName

/-- The body is packed. -/
def isPacked (head : Head) : Bool :=
  head.text? "content-encoding" == some "gzip"

/-- How the end of the body is known.  Chunks come before a length. -/
def framing (head : Head) : Except Fault Framing := do
  let length ← head.length?
  if isBodiless head.status then return .empty
  if head.isChunked then return .chunks
  match length with
  | some n => return .length n
  | none => return if isRedirection head.status then .empty else .close

end Head

/-! ## Responses -/

/-- The body of a reply; bytes after its end are passed over. -/
def Framing.read : Framing → Reader Bytes
  | .empty => return []
  | .chunks => Chunks.read
  | .length n => Reader.take n
  | .close => get

/-- A body as it was before it was packed. -/
def unpacked (body : Bytes) : Except Fault Bytes :=
  (Gzip.unpack body).mapError .packed

/-- The response that a reply brings. -/
def response : Reader Response := do
  let head ← finalHead ((← get).length + 1)
  let body ← (← head.framing).read
  let body ← if head.isPacked then unpacked body else pure body
  return ⟨head.status, head.text? "location", body⟩

/-- The response that the bytes of a connection bring. -/
def responseOf (received : Bytes) : Except Fault Response :=
  response.run' received

example : (responseOf (Utf8.encode
    "HTTP/1.1 102 \r\n\r\nHTTP/1.1 200 \r\nContent-Length: 1\r\n\r\nab")).toOption
    = some ⟨200, none, Utf8.encode "a"⟩ := by decide +kernel

end Dataspace.Http
