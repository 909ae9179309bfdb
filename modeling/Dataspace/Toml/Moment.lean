/-
Dates and times of TOML.

A moment is a date, a time of day, or a date and a time after `T` or one blank,
then perhaps with its distance from UTC.  The date has to be one of the calendar.
A second may be a leap second, and its fraction may have any number of digits.
-/
import Dataspace.Time.Date
import Dataspace.Toml.Scalar

namespace Dataspace.Toml

open Time

/-! Each reader gives what follows the part of a moment that it reads. -/

/-- The number that exactly so many digits stand for, if it is within bounds. -/
def fixed? (width low high : Nat) (cs : List Char) : Option (Nat × List Char) :=
  let ds := cs.take width
  let n := digitsNumber 10 ds
  if ds.length = width && ds.all Char.isDigit && low ≤ n && n ≤ high then
    some (n, cs.drop width)
  else none

/-- What follows a mark. -/
def afterMark? (mark : Char) : List Char → Option (List Char)
  | c :: cs => if c = mark then some cs else none
  | [] => none

/-- A date of the calendar. -/
def afterDate? (cs : List Char) : Option (List Char) := do
  let (year, cs) ← fixed? 4 0 9999 cs
  let (month, cs) ← fixed? 2 1 12 (← afterMark? '-' cs)
  let (day, cs) ← fixed? 2 1 31 (← afterMark? '-' cs)
  if Date.inCalendar ⟨year, month, day⟩ then some cs else none

/-- The fraction of a second, if there is one. -/
def afterFraction : List Char → List Char
  | '.' :: c :: cs => if c.isDigit then cs.dropWhile Char.isDigit else '.' :: c :: cs
  | cs => cs

/-- Hours and minutes. -/
def afterMinute? (cs : List Char) : Option (List Char) := do
  let (_, cs) ← fixed? 2 0 23 cs
  let (_, cs) ← fixed? 2 0 59 (← afterMark? ':' cs)
  return cs

/-- A time of day. -/
def afterTime? (cs : List Char) : Option (List Char) := do
  let cs ← afterMinute? cs
  let (_, cs) ← fixed? 2 0 60 (← afterMark? ':' cs)
  return afterFraction cs

/-- The distance from UTC, if there is one. -/
def afterOffset (cs : List Char) : List Char :=
  match cs with
  | 'Z' :: rest => rest
  | 'z' :: rest => rest
  | '+' :: rest => (afterMinute? rest).getD cs
  | '-' :: rest => (afterMinute? rest).getD cs
  | _ => cs

/-- The time after a date, if there is one. -/
def afterTimeOfDate (cs : List Char) : List Char :=
  match cs with
  | c :: rest =>
    if c = 'T' || c = 't' || c = ' ' then ((afterTime? rest).map afterOffset).getD cs else cs
  | [] => []

/-- What follows a moment. -/
def afterMoment? (cs : List Char) : Option (List Char) :=
  match afterDate? cs with
  | some rest => some (afterTimeOfDate rest)
  | none => afterTime? cs

/-- The text of a moment, as the only member of an object: no field takes a moment,
but where members may be ignored it does no harm. -/
def momentJson (text : List Char) : Json :=
  .object [("moment", .str (String.ofList text))]

/-- A moment and the rest. -/
def moment? (cs : List Char) : Option (Json × List Char) :=
  (afterMoment? cs).map fun rest => (momentJson (cs.take (cs.length - rest.length)), rest)

example : afterMoment? "2000-02-29 23:59:60.5-08:00,".toList = some [','] := by decide +kernel
example : afterMoment? "2000-02-29 # 1".toList = some " # 1".toList := by decide +kernel
example : afterMoment? "1900-02-29".toList = none := by decide +kernel

end Dataspace.Toml
