/-
Contract windows in the calendar.

A window ends so many days after its start.  There are two reasons to refuse one:
its length is no span of time, or its end is not in the calendar.  The first never
decides, since no span between two dates of the calendar is too long; so a window
is refused if and only if its end is not in the calendar.  Its two texts tell their
dates and one time of day: the year has a sign unless it has four digits, and all
that comes after it has its fixed place, counted from the end.
-/
import Dataspace.Payload.Window
import Dataspace.Proofs.Calendar

namespace Dataspace

namespace Time

/-! ## The texts of dates -/

namespace Instant

theorem ofDigitChars_padded (width n : Nat) : Nat.ofDigitChars 10 (padded width n) 0 = n := by
  simp only [padded, Nat.ofDigitChars_append, Nat.ofDigitChars_replicate_zero, Nat.mul_zero]
  exact Nat.ofDigitChars_toDigits (by decide) (by decide)

theorem padded_injective {width n n' : Nat} (h : padded width n = padded width n') : n = n' := by
  rw [← ofDigitChars_padded width n, h, ofDigitChars_padded]

/-- A number of no more digits than the width takes the width. -/
theorem length_padded {width n : Nat} (h : (Nat.toDigits 10 n).length ≤ width) :
    (padded width n).length = width := by
  simp only [padded, List.length_append, List.length_replicate]
  omega

theorem length_two {n : Nat} (h : n < 100) : (padded 2 n).length = 2 :=
  length_padded ((Nat.length_toDigits_le_iff (by decide) (by decide)).mpr h)

theorem length_three {n : Nat} (h : n < 1000) : (padded 3 n).length = 3 :=
  length_padded ((Nat.length_toDigits_le_iff (by decide) (by decide)).mpr h)

/-- Numbers of one width at the ends of two texts are told apart from what is before them. -/
theorem append_padded_injective {front front' : List Char} {c : Char} {width n n' : Nat}
    (hlength : (padded width n).length = (padded width n').length)
    (h : front ++ c :: padded width n = front' ++ c :: padded width n') :
    front = front' ∧ n = n' := by
  obtain ⟨hfront, hlast⟩ := List.append_inj' h (congrArg Nat.succ hlength)
  exact ⟨hfront, padded_injective (List.cons.inj hlast).2⟩

theorem isDigit_of_mem_padded {width n : Nat} {c : Char} (h : c ∈ padded width n) :
    c.isDigit = true := by
  rcases List.mem_append.mp h with hzero | hdigit
  · rw [(List.mem_replicate.mp hzero).2]
    rfl
  · exact Nat.isDigit_of_mem_toDigits (by decide) (by decide) hdigit

/-! ### Years -/

/-- Years that do not have four digits have a sign. -/
def yearSign (year : Int) : List Char :=
  if year < 0 then ['-'] else if year ≤ 9999 then [] else ['+']

theorem yearChars_eq (year : Int) : yearChars year = yearSign year ++ padded 4 year.natAbs := by
  unfold yearChars yearSign
  by_cases hnegative : year < 0
  · rw [if_pos hnegative, if_pos hnegative]
    rfl
  · rw [if_neg hnegative, if_neg hnegative]
    by_cases hfour : year ≤ 9999
    · rw [if_pos hfour, if_pos hfour]
      rfl
    · rw [if_neg hfour, if_neg hfour]
      rfl

/-- The year of its text. -/
def yearOf : List Char → Int
  | '-' :: digits => -(Nat.ofDigitChars 10 digits 0 : Nat)
  | '+' :: digits => (Nat.ofDigitChars 10 digits 0 : Nat)
  | digits => (Nat.ofDigitChars 10 digits 0 : Nat)

/-- A sign is no digit. -/
theorem yearOf_digits {digits : List Char} (h : ∀ c ∈ digits, c.isDigit = true) :
    yearOf digits = (Nat.ofDigitChars 10 digits 0 : Nat) := by
  unfold yearOf
  split
  · exact absurd (h _ List.mem_cons_self) (by decide)
  · rfl
  · rfl

theorem yearOf_signed (year : Int) : yearOf (yearSign year ++ padded 4 year.natAbs) = year := by
  unfold yearSign
  split
  · show -((Nat.ofDigitChars 10 (padded 4 year.natAbs) 0 : Nat) : Int) = year
    rw [ofDigitChars_padded]
    omega
  · split
    · rw [List.nil_append, yearOf_digits fun _ hc => isDigit_of_mem_padded hc, ofDigitChars_padded]
      omega
    · show ((Nat.ofDigitChars 10 (padded 4 year.natAbs) 0 : Nat) : Int) = year
      rw [ofDigitChars_padded]
      omega

/-! ### Dates and times of day -/

/-- The text of a date, and of a second of the day with its milliseconds, with a zero offset. -/
def stamp (d : Date) (second millis : Nat) : String :=
  String.ofList
    (yearSign d.year ++ padded 4 d.year.natAbs ++ '-' :: padded 2 d.month ++ '-' :: padded 2 d.day
      ++ 'T' :: padded 2 (second / 3600) ++ ':' :: padded 2 (second / 60 % 60)
      ++ ':' :: padded 2 (second % 60) ++ '.' :: padded 3 millis ++ ['+', '0', '0', ':', '0', '0'])

/-- All but the year takes the same number of characters in every text, so what is written in one
place is told apart from what is in the next. -/
theorem stamp_injective {d e : Date} (hd : d.Proper) (he : e.Proper)
    {second second' millis millis' : Nat} (hsecond : second < 86400) (hsecond' : second' < 86400)
    (hmillis : millis < 1000) (hmillis' : millis' < 1000)
    (h : stamp d second millis = stamp e second' millis') :
    d = e ∧ second = second' ∧ millis = millis' := by
  have htwo : ∀ {n n' : Nat}, n < 100 → n' < 100 →
      (padded 2 n).length = (padded 2 n').length := fun hn hn' =>
    (length_two hn).trans (length_two hn').symm
  have hthree : (padded 3 millis).length = (padded 3 millis').length :=
    (length_three hmillis).trans (length_three hmillis').symm
  have hday := Nat.le_trans hd.day_le (Date.monthLength_bounds d.year d.month).2
  have hday' := Nat.le_trans he.day_le (Date.monthLength_bounds e.year e.month).2
  have hmonth := hd.month_le
  have hmonth' := he.month_le
  have hchars := List.append_cancel_right (String.ofList_injective h)
  obtain ⟨hfront, hmillis⟩ := append_padded_injective hthree hchars
  obtain ⟨hfront, hseconds⟩ := append_padded_injective (htwo (by omega) (by omega)) hfront
  obtain ⟨hfront, hminutes⟩ := append_padded_injective (htwo (by omega) (by omega)) hfront
  obtain ⟨hfront, hhours⟩ := append_padded_injective (htwo (by omega) (by omega)) hfront
  obtain ⟨hfront, hdays⟩ := append_padded_injective (htwo (by omega) (by omega)) hfront
  obtain ⟨hfront, hmonths⟩ := append_padded_injective (htwo (by omega) (by omega)) hfront
  have hyears : d.year = e.year := by
    rw [← yearOf_signed d.year, hfront, yearOf_signed]
  refine ⟨?_, by omega, hmillis⟩
  cases d
  cases e
  cases hyears
  cases hmonths
  cases hdays
  rfl

/-- The text tells the date, the second of the day and its milliseconds, and no others. -/
structure Denotes (text : String) (d : Date) (second millis : Nat) : Prop where
  spelled : text = stamp d second millis
  only : ∀ (e : Date) (second' millis' : Nat), e.Proper → second' < 86400 → millis' < 1000 →
    text = stamp e second' millis' → e = d ∧ second' = second ∧ millis' = millis

theorem denotes_stamp {d : Date} (h : d.Proper) {second millis : Nat} (hsecond : second < 86400)
    (hmillis : millis < 1000) : Denotes (stamp d second millis) d second millis where
  spelled := rfl
  only _ _ _ he hsecond' hmillis' hstamp :=
    stamp_injective he h hsecond' hsecond hmillis' hmillis hstamp.symm

end Instant

/-! ## Instants and their dates -/

namespace Date

/-- The day from which days are counted. -/
def epoch : Date :=
  ⟨1970, 1, 1⟩

/-- The calendar has the dates from -262143-01-01 to 262142-12-31. -/
def Representable (d : Date) : Prop :=
  -262143 ≤ d.year ∧ d.year ≤ 262142

theorem proper_epoch : epoch.Proper :=
  ⟨by decide, by decide, by decide, by decide⟩

end Date

namespace Instant

/-- The date of the instant: as many days after the epoch as there are whole days in its seconds. -/
structure OnDate (t : Instant) (d : Date) : Prop where
  proper : d.Proper
  days : Date.DaysAfter t.day .epoch d

/-- The second of the day. -/
def secondOfDay (t : Instant) : Nat :=
  (t.seconds % daySeconds).toNat

/-- The milliseconds of the second. -/
def millis (t : Instant) : Nat :=
  t.nanos / 1000000

/-- The instant so many days later, whether or not it has a date in the calendar. -/
def daysLater (t : Instant) (days : Int) : Instant :=
  ⟨t.seconds + days * daySeconds, t.nanos⟩

section Dates

variable {t : Instant} {d : Date} {days : Int}

theorem onDate_iff : t.OnDate d ↔ d = Date.ofDays t.day := by
  have hepoch : Date.toDays .epoch = 0 := by decide
  constructor
  · rintro ⟨hproper, hdays⟩
    have hnumber := (Date.daysAfter_iff Date.proper_epoch hproper).mp hdays
    rw [hepoch, Int.zero_add] at hnumber
    rw [← hnumber, Date.ofDays_toDays hproper]
  · rintro rfl
    refine ⟨Date.proper_ofDays _, (Date.daysAfter_iff Date.proper_epoch (Date.proper_ofDays _)).mpr ?_⟩
    rw [hepoch, Int.zero_add, Date.toDays_ofDays]

theorem day_daysLater : (t.daysLater days).day = t.day + days :=
  Int.add_mul_ediv_right _ _ (by decide)

theorem secondOfDay_daysLater : (t.daysLater days).secondOfDay = t.secondOfDay :=
  congrArg Int.toNat (Int.add_mul_emod_self_right _ _ _)

theorem daysLater_neg : (t.daysLater days).daysLater (-days) = t := by
  obtain ⟨seconds, nanos⟩ := t
  simp only [daysLater, Int.neg_mul, Int.add_neg_cancel_right]

theorem inRange_iff_representable (h : t.OnDate d) :
    Date.inRange t.day = true ↔ d.Representable := by
  rw [onDate_iff] at h
  have hproper := Date.proper_ofDays t.day
  have hrange := Date.inRange_iff hproper
  rwa [Date.toDays_ofDays, ← h] at hrange

/-- The text of an instant that is in no leap second. -/
theorem denotes_rfc3339 (h : t.OnDate d) (hnanos : t.nanos < secondNanos) :
    Denotes t.rfc3339 d t.secondOfDay t.millis := by
  have hsecond : t.secondOfDay < 86400 := by
    unfold secondOfDay daySeconds
    omega
  have hmillis : t.millis < 1000 := by
    unfold millis
    unfold secondNanos at hnanos
    omega
  have htext : t.rfc3339 = stamp d t.secondOfDay t.millis := by
    have hclock : t.clockChars
        = padded 2 (t.secondOfDay / 3600) ++ ':' :: padded 2 (t.secondOfDay / 60 % 60)
          ++ ':' :: padded 2 (t.secondOfDay % 60) ++ '.' :: padded 3 t.millis := by
      simp only [clockChars, if_pos hnanos, Nat.mod_eq_of_lt hnanos]
      rfl
    rw [rfc3339, ← onDate_iff.mp h, hclock, dateChars, yearChars_eq]
    simp only [stamp, List.append_assoc, List.cons_append]
  rw [htext]
  exact denotes_stamp h.proper hsecond hmillis

end Dates

end Instant

/-! ## Adding days -/

theorem Span.seconds_of_ofDays? {days : Int} {span : Span} (h : Span.ofDays? days = some span) :
    span.seconds = days * daySeconds := by
  obtain ⟨seconds, htimes, hspan⟩ := Option.bind_eq_some_iff.mp h
  unfold times? at htimes
  unfold Span.ofSeconds? at hspan
  split at htimes
  · split at hspan
    · cases htimes
      cases hspan
      rfl
    · cases hspan
  · cases htimes

/-- A span that fits is found: its seconds fit a word all the more. -/
theorem Span.isSome_ofDays? {days : Int}
    (h : -maxSpanSeconds ≤ days * daySeconds ∧ days * daySeconds ≤ maxSpanSeconds) :
    (Span.ofDays? days).isSome = true := by
  have hword : InWord (days * daySeconds) := by
    unfold maxSpanSeconds at h
    unfold InWord
    omega
  rw [Span.ofDays?, times?, if_pos hword, Option.bind_some, Span.ofSeconds?, dif_pos h]
  rfl

theorem Date.bounds_of_inRange {n : Int} (h : inRange n = true) :
    -96465292 ≤ n ∧ n ≤ 95026236 := by
  have hfirst : firstDay = -96465292 := rfl
  have hlast : lastDay = 95026236 := rfl
  simpa [inRange, hfirst, hlast] using h

namespace Instant

section AddDays

variable {t : Instant} (hday : Date.inRange t.day = true)

include hday

/-- No two dates of the calendar are too far apart for a span. -/
theorem isSome_ofDays?_of_inRange {days : Int} (h : Date.inRange (t.day + days) = true) :
    (Span.ofDays? days).isSome = true := by
  have hstart := Date.bounds_of_inRange hday
  have hend := Date.bounds_of_inRange h
  refine Span.isSome_ofDays? ?_
  unfold maxSpanSeconds maxWord daySeconds
  omega

/-- The second of the end fits a word, also where it has no date. -/
theorem inWord_of_ofDays? {days : Int} {span : Span} (h : Span.ofDays? days = some span) :
    span.seconds = days * daySeconds ∧ InWord span.seconds ∧ InWord (t.seconds + span.seconds) := by
  have hstart := Date.bounds_of_inRange hday
  have hspan := span.bounded
  refine ⟨Span.seconds_of_ofDays? h, ?_⟩
  unfold day daySeconds at hstart
  unfold maxSpanSeconds at hspan
  unfold InWord maxWord at *
  omega

variable (hnanos : t.nanos < secondNanos)

include hnanos

/-- There is an end if and only if it is in the calendar. -/
theorem addDays?_eq (days : Int) :
    t.addDays? days
      = if Date.inRange (t.day + days) then some (t.daysLater days) else none := by
  unfold addDays?
  cases hspan : Span.ofDays? days with
  | none =>
      have hout : ¬ Date.inRange (t.day + days) = true := by
        intro hin
        have hsome := isSome_ofDays?_of_inRange hday hin
        rw [hspan] at hsome
        cases hsome
      rw [if_neg hout]
      rfl
  | some span =>
      have hshift : t.shift span = t.daysLater days := by
        rw [shift, if_pos (Or.inl hnanos), Span.seconds_of_ofDays? hspan]
        rfl
      rw [Option.bind_some, plus?, hshift, day_daysLater]

end AddDays

end Instant

end Time

/-! ## Windows -/

namespace ContractPayload

open Time

theorem window_eq {start : Instant} (hday : Date.inRange start.day = true)
    (hnanos : start.nanos < Instant.secondNanos) (days : Int) :
    window start days
      = if Date.inRange (start.daysLater days).day then
          .ok ⟨start.rfc3339, (start.daysLater days).rfc3339⟩
        else .error (.contractWindow days) := by
  rw [window, Instant.addDays?_eq hday hnanos, Instant.day_daysLater]
  by_cases hend : Date.inRange (start.day + days) = true
  · rw [if_pos hend, if_pos hend]
  · rw [if_neg hend, if_neg hend]

/-- An instant of the calendar has a date, and so has the instant so many days later, whether the
calendar has it or not; it is so many days after the first.  A window is refused, with the number of
days, if and only if the calendar does not have that date.  Otherwise its texts tell the two dates
and both the time of day of the start, and the window back from its end is the same with its ends
exchanged.  No number of seconds exceeds a word. -/
theorem window_dates {start : Instant} (hday : Date.inRange start.day = true)
    (hnanos : start.nanos < Instant.secondNanos) (days : Int) :
    ∃ first last : Date,
      start.OnDate first ∧ (start.daysLater days).OnDate last ∧ Date.DaysAfter days first last ∧
      (window start days = .error (.contractWindow days) ↔ ¬ last.Representable) ∧
      (last.Representable → ∃ w, window start days = .ok w ∧
        Instant.Denotes w.start first start.secondOfDay start.millis ∧
        Instant.Denotes w.finish last start.secondOfDay start.millis ∧
        window (start.daysLater days) (-days) = .ok ⟨w.finish, w.start⟩) ∧
      ∀ span, Span.ofDays? days = some span →
        span.seconds = days * daySeconds ∧ InWord span.seconds ∧
          InWord (start.seconds + span.seconds) := by
  have hfirst : start.OnDate (Date.ofDays start.day) := Instant.onDate_iff.mpr rfl
  have hlast : (start.daysLater days).OnDate (Date.ofDays (start.daysLater days).day) :=
    Instant.onDate_iff.mpr rfl
  have hrange := Instant.inRange_iff_representable hlast
  have hwindow := window_eq hday hnanos days
  refine ⟨_, _, hfirst, hlast, ?_, ?_, ?_, fun span => Instant.inWord_of_ofDays? hday⟩
  · refine (Date.daysAfter_iff hfirst.proper hlast.proper).mpr ?_
    rw [Date.toDays_ofDays, Date.toDays_ofDays, Instant.day_daysLater]
  · rw [hwindow, ← hrange]
    by_cases hend : Date.inRange (start.daysLater days).day = true
    · rw [if_pos hend]
      exact iff_of_false (fun h => nomatch h) (fun h => h hend)
    · rw [if_neg hend]
      exact iff_of_true rfl hend
  · intro hrepresentable
    have hend := hrange.mpr hrepresentable
    have hfinish := Instant.denotes_rfc3339 hlast hnanos
    rw [Instant.secondOfDay_daysLater] at hfinish
    rw [if_pos hend] at hwindow
    refine ⟨_, hwindow, Instant.denotes_rfc3339 hfirst hnanos, hfinish, ?_⟩
    rw [window_eq hend hnanos, Instant.daysLater_neg, if_pos hday]

/-- The window of a day that ends on a leap day, a millisecond before midnight. -/
theorem window_dates_leap_day :
    Date.inRange (Instant.day ⟨1709164799, 999000000⟩) = true ∧
      999000000 < Instant.secondNanos ∧
      ∃ w, window ⟨1709164799, 999000000⟩ 1 = .ok w ∧
        Instant.Denotes w.start ⟨2024, 2, 28⟩ 86399 999 ∧
        Instant.Denotes w.finish ⟨2024, 2, 29⟩ 86399 999 := by
  have hday : Date.inRange (Instant.day ⟨1709164799, 999000000⟩) = true := by decide +kernel
  have hnanos : 999000000 < Instant.secondNanos := by decide
  obtain ⟨first, last, hfirst, hlast, -, -, hwindow, -⟩ := window_dates hday hnanos 1
  have hstart : first = ⟨2024, 2, 28⟩ := (Instant.onDate_iff.mp hfirst).trans (by decide +kernel)
  have hend : last = ⟨2024, 2, 29⟩ := (Instant.onDate_iff.mp hlast).trans (by decide +kernel)
  subst hstart hend
  obtain ⟨w, hw, hfrom, hto, -⟩ := hwindow ⟨by decide, by decide⟩
  exact ⟨hday, hnanos, w, hw, hfrom, hto⟩

end ContractPayload

end Dataspace
