/-
Spans of time.

A span is a whole number of seconds, and its milliseconds fit a signed word of
64 bits.  So a number of days can be too large in two ways: already its seconds
are too many for a word, or they are too many for a span.
-/

namespace Dataspace.Time

/-! ## Words -/

/-- The largest number of a signed word of 64 bits. -/
def maxWord : Int := 0x7fffffffffffffff

/-- A signed word of 64 bits holds the number. -/
def InWord (n : Int) : Prop :=
  -maxWord - 1 ≤ n ∧ n ≤ maxWord

instance (n : Int) : Decidable (InWord n) :=
  inferInstanceAs (Decidable (_ ∧ _))

/-- The product, unless it overflows a word. -/
def times? (a b : Int) : Option Int :=
  if InWord (a * b) then some (a * b) else none

/-! ## Spans -/

/-- The seconds of a day. -/
def daySeconds : Int := 86400

/-- The most seconds of a span, forward or back. -/
def maxSpanSeconds : Int := maxWord / 1000

/-- A span of time. -/
structure Span where
  seconds : Int
  bounded : -maxSpanSeconds ≤ seconds ∧ seconds ≤ maxSpanSeconds

namespace Span

def ofSeconds? (seconds : Int) : Option Span :=
  if h : -maxSpanSeconds ≤ seconds ∧ seconds ≤ maxSpanSeconds then some ⟨seconds, h⟩ else none

/-- So many days. -/
def ofDays? (days : Int) : Option Span :=
  (times? days daySeconds).bind ofSeconds?

example : (ofDays? 106751991167).map seconds = some 9223372036828800 := by decide +kernel
example : (ofDays? 106751991168).isNone = true := by decide +kernel
example : (ofDays? (-0x8000000000000000)).isNone = true := by decide +kernel

end Span

end Dataspace.Time
