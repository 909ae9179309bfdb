/-
Instants, and their RFC 3339 text.

An instant is a second counted from 1970-01-01 and a number of nanoseconds.
Nanoseconds from 10^9 on are a leap second: the second is shown as 60.  Adding
days moves a leap second onto an ordinary one, the last second of its minute
when moved forward and the first of the next when moved back.
-/
import Dataspace.Time.Date
import Dataspace.Time.Span

namespace Dataspace.Time

/-- A second since the epoch, and nanoseconds, beyond 10^9 in a leap second. -/
structure Instant where
  seconds : Int
  nanos : Nat
deriving DecidableEq

namespace Instant

/-- The nanoseconds of a second. -/
def secondNanos : Nat := 1000000000

/-- The day on which the instant falls. -/
def day (t : Instant) : Int :=
  t.seconds / daySeconds

/-- The instant a span later, whatever its date. -/
def shift (t : Instant) (span : Span) : Instant :=
  if t.nanos < secondNanos ∨ span.seconds = 0 then ⟨t.seconds + span.seconds, t.nanos⟩
  else if 0 < span.seconds then ⟨t.seconds + span.seconds, t.nanos - secondNanos⟩
  else ⟨t.seconds + 1 + span.seconds, t.nanos - secondNanos⟩

/-- The instant a span later, if the calendar has its date. -/
def plus? (t : Instant) (span : Span) : Option Instant :=
  let later := t.shift span
  if Date.inRange later.day then some later else none

/-- The instant so many days later, if they are a span of time and lead to a date. -/
def addDays? (t : Instant) (days : Int) : Option Instant :=
  (Span.ofDays? days).bind t.plus?

/-! ## Text -/

/-- A number with at least `width` digits. -/
def padded (width n : Nat) : List Char :=
  let ds := Nat.toDigits 10 n
  List.replicate (width - ds.length) '0' ++ ds

/-- A year: four digits from 0 to 9999, otherwise a sign and at least four. -/
def yearChars (year : Int) : List Char :=
  if year < 0 then '-' :: padded 4 year.natAbs
  else if year ≤ 9999 then padded 4 year.natAbs
  else '+' :: padded 4 year.natAbs

def dateChars (d : Date) : List Char :=
  yearChars d.year ++ '-' :: padded 2 d.month ++ '-' :: padded 2 d.day

/-- The time of day, cut off at the millisecond. -/
def clockChars (t : Instant) : List Char :=
  let second := (t.seconds % daySeconds).toNat
  let leap := if t.nanos < secondNanos then 0 else 1
  padded 2 (second / 3600) ++ ':' :: padded 2 (second / 60 % 60)
    ++ ':' :: padded 2 (second % 60 + leap)
    ++ '.' :: padded 3 (t.nanos % secondNanos / 1000000)

/-- The instant in UTC, with milliseconds and an explicit zero offset. -/
def rfc3339 (t : Instant) : String :=
  String.ofList
    (dateChars (Date.ofDays t.day) ++ 'T' :: clockChars t ++ ['+', '0', '0', ':', '0', '0'])

example : rfc3339 ⟨1617708824, 0⟩ = "2021-04-06T11:33:44.000+00:00" := by decide +kernel
example : (addDays? ⟨1483228799, 1999999999⟩ (-1)).map rfc3339
    = some "2016-12-31T00:00:00.999+00:00" := by decide +kernel
example : rfc3339 ⟨-377705116801, 0⟩ = "-10000-12-31T23:59:59.000+00:00" := by decide +kernel

end Instant

end Dataspace.Time
