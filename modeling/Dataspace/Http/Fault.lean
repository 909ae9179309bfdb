/-
Faults of the network: why a request had no response.

Either the URL cannot be asked, or no connection came about, or what came back is
no reply.
-/
import Dataspace.Gzip.Fault

namespace Dataspace.Http

/-- Why a text is no URL that can be asked. -/
inductive UrlFault where
  | empty
  | tooLong
  /-- A character that has no place in a URL, or not where it stands. -/
  | badCharacter
  | badAuthority
  /-- Neither an authority alone nor a scheme with an authority. -/
  | badForm
  | noScheme (url : String)
  | schemeTooLong
  | unknownScheme (scheme : String)
deriving DecidableEq

/-- Why bytes are no head of a reply. -/
inductive HeadFault where
  | newLine
  | version
  | status
  | headerName
  | headerValue
deriving DecidableEq

/-- Why bytes are no chunks. -/
inductive ChunkFault where
  /-- The line with the length of a chunk is no text. -/
  | notText
  | notLength
  /-- The bytes after a chunk are no line end. -/
  | noLineEnd
deriving DecidableEq

/-- Why a request had no response. -/
inductive Fault where
  | url (fault : UrlFault)
  /-- The connection was refused. -/
  | refused
  /-- The connection was closed before a final reply had arrived whole. -/
  | closed
  | head (fault : HeadFault)
  | tooManyHeaders
  | headTooLong (bytes : Nat)
  /-- A reply that bids to go on has headers. -/
  | headersBeforeFinal
  | badLength
  /-- Two lengths are given that differ. -/
  | lengthsDiffer
  | chunk (fault : ChunkFault)
  | packed (fault : Gzip.Fault)
deriving DecidableEq

namespace UrlFault

def message : UrlFault → String
  | empty => "http: empty string"
  | tooLong => "http: uri too long"
  | badCharacter => "http: invalid uri character"
  | badAuthority => "http: invalid authority"
  | badForm => "http: invalid format"
  | noScheme url => "bad uri: " ++ url ++ " is missing scheme"
  | schemeTooLong => "http: scheme too long"
  | unknownScheme scheme => "bad uri: unknown scheme: " ++ scheme

end UrlFault

namespace HeadFault

def message : HeadFault → String
  | newLine => "invalid new line"
  | version => "invalid HTTP version"
  | status => "invalid response status"
  | headerName => "invalid header name"
  | headerValue => "invalid header value"

end HeadFault

namespace ChunkFault

def message : ChunkFault → String
  | notText => "chunk length cannot be read as ascii"
  | notLength => "chunk length cannot be read as a number"
  | noLineEnd => "chunk expected crlf as next character"

end ChunkFault

namespace Fault

/-- The greatest length of the head of a reply, in bytes. -/
def maxHead : Nat := 65536

def message : Fault → String
  | url fault => fault.message
  | refused => "connection refused"
  | closed => "io: Peer disconnected"
  | head fault => "protocol: http parse fail: " ++ fault.message
  | tooManyHeaders => "protocol: http parse resulted in too many headers"
  | headTooLong bytes =>
    "response header is too big: " ++ toString bytes ++ " > " ++ toString maxHead
  | headersBeforeFinal => "protocol: received headers with 100-continue response"
  | badLength => "protocol: content-length header not a number"
  | lengthsDiffer => "protocol: more than one content-length header"
  | chunk fault => "protocol: " ++ fault.message
  | packed fault => "gzip decompression failed: " ++ fault.message

end Fault

end Dataspace.Http
