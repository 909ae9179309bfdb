/-
Faults of packed data.

Packed data is refused where it breaks off, where its parts have not the form that
they must have, and where it does not fit its checksum.
-/

namespace Dataspace.Gzip

/-- Why bytes are no packed data. -/
inductive Fault where
  | badHeader
  /-- A name or a comment in a header is too long. -/
  | longField
  | badChecksum
  | badBlock
  /-- The bytes end before the packed data does. -/
  | ended
deriving DecidableEq

namespace Fault

def message : Fault → String
  | badHeader => "invalid gzip header"
  | longField => "gzip header field too long"
  | badChecksum => "corrupt gzip stream does not have a matching checksum"
  | badBlock => "corrupt deflate stream"
  | ended => "unexpected end of file"

end Fault

end Dataspace.Gzip
