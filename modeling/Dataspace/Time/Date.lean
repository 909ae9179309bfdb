/-
The proleptic Gregorian calendar.

Days are counted from 1970-01-01, and years are counted with a year zero.  A
date is found from its day by way of eras of 400 years, which all have 146097
days, with years taken to begin on 1 March so that a leap day is the last of
its year.  Dates run from -262143-01-01 to 262142-12-31.
-/

namespace Dataspace.Time

/-- A date of the calendar. -/
structure Date where
  year : Int
  month : Nat
  day : Nat
deriving DecidableEq

namespace Date

/-! ## From days to dates and back -/

/-- The date of a day. -/
def ofDays (days : Int) : Date :=
  let z := days + 719468
  let era := z / 146097
  let dayOfEra := (z % 146097).toNat
  let yearOfEra :=
    (dayOfEra - dayOfEra / 1460 + dayOfEra / 36524 - dayOfEra / 146096) / 365
  let dayOfYear := dayOfEra - (365 * yearOfEra + yearOfEra / 4 - yearOfEra / 100)
  let shifted := (5 * dayOfYear + 2) / 153
  let month := if shifted < 10 then shifted + 3 else shifted - 9
  { year := yearOfEra + era * 400 + (if month ≤ 2 then 1 else 0)
    month := month
    day := dayOfYear - (153 * shifted + 2) / 5 + 1 }

/-- The day of a date. -/
def toDays (d : Date) : Int :=
  let year := if d.month ≤ 2 then d.year - 1 else d.year
  let era := year / 400
  let yearOfEra := year % 400
  let shifted := if d.month ≤ 2 then d.month + 9 else d.month - 3
  let dayOfYear := (153 * shifted + 2) / 5 + d.day - 1
  era * 146097 + (yearOfEra * 365 + yearOfEra / 4 - yearOfEra / 100 + dayOfYear) - 719468

/-- Whether the month has such a day: any other day leads back to another date. -/
def inCalendar (d : Date) : Bool :=
  ofDays d.toDays == d

/-! ## The range of the calendar -/

/-- The first and the last day. -/
def firstDay : Int := toDays ⟨-262143, 1, 1⟩

def lastDay : Int := toDays ⟨262142, 12, 31⟩

/-- The day has a date. -/
def inRange (days : Int) : Bool :=
  firstDay ≤ days && days ≤ lastDay

example : ofDays 11016 = ⟨2000, 2, 29⟩ := by decide +kernel
example : toDays ⟨2000, 2, 29⟩ = 11016 := by decide +kernel
example : ofDays (-719529) = ⟨-1, 12, 31⟩ := by decide +kernel
example : inCalendar ⟨1900, 2, 28⟩ ∧ ¬ inCalendar ⟨1900, 2, 29⟩ := by decide +kernel
example : firstDay = -96465292 ∧ lastDay = 95026236 := by decide +kernel

end Date

end Dataspace.Time
