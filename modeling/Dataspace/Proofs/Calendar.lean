/-
The calendar, day by day.

A year has twelve months, and every fourth year a day more, except for three of
four centuries.  This says which dates there are and which is the next one, and so
what it is for a date to be so many days after another.  Counting days agrees with
it: the next date has the next number.  A date is found again from its number, so
every day has a date, and one only.
-/
import Dataspace.Time.Date

namespace Dataspace.Time.Date

/-! ## Dates and the next date -/

/-- Every fourth year is a leap year, and of the centuries only every fourth. -/
def IsLeap (year : Int) : Prop :=
  year % 4 = 0 ∧ (year % 100 ≠ 0 ∨ year % 400 = 0)

instance (year : Int) : Decidable (IsLeap year) :=
  inferInstanceAs (Decidable (_ ∧ _))

/-- The days of a month. -/
def monthLength (year : Int) (month : Nat) : Nat :=
  if month = 2 then if IsLeap year then 29 else 28
  else if month = 4 ∨ month = 6 ∨ month = 9 ∨ month = 11 then 30
  else 31

/-- The year has such a month, and the month such a day. -/
structure Proper (d : Date) : Prop where
  month_pos : 1 ≤ d.month
  month_le : d.month ≤ 12
  day_pos : 1 ≤ d.day
  day_le : d.day ≤ monthLength d.year d.month

/-- The next date. -/
def tomorrow (d : Date) : Date :=
  if d.day < monthLength d.year d.month then ⟨d.year, d.month, d.day + 1⟩
  else if d.month < 12 then ⟨d.year, d.month + 1, 1⟩
  else ⟨d.year + 1, 1, 1⟩

section Next

variable {year : Int} {month day : Nat}

theorem proper_mk :
    Proper ⟨year, month, day⟩ ↔
      1 ≤ month ∧ month ≤ 12 ∧ 1 ≤ day ∧ day ≤ monthLength year month :=
  ⟨fun h => ⟨h.month_pos, h.month_le, h.day_pos, h.day_le⟩, fun ⟨h, h', hd, hd'⟩ => ⟨h, h', hd, hd'⟩⟩

theorem monthLength_bounds (year : Int) (month : Nat) :
    28 ≤ monthLength year month ∧ monthLength year month ≤ 31 := by
  unfold monthLength
  repeat' split
  all_goals decide

theorem one_le_monthLength (year : Int) (month : Nat) : 1 ≤ monthLength year month :=
  Nat.le_trans (by decide) (monthLength_bounds year month).1

theorem tomorrow_in_month (h : day < monthLength year month) :
    tomorrow ⟨year, month, day⟩ = ⟨year, month, day + 1⟩ :=
  if_pos h

theorem tomorrow_last (h : month < 12) :
    tomorrow ⟨year, month, monthLength year month⟩ = ⟨year, month + 1, 1⟩ :=
  (if_neg (Nat.lt_irrefl _)).trans (if_pos h)

theorem tomorrow_new_year (year : Int) : tomorrow ⟨year, 12, 31⟩ = ⟨year + 1, 1, 1⟩ :=
  rfl

/-- A date is within its month, the last of one, or the last of its year. -/
theorem Proper.cases {d : Date} (h : d.Proper) :
    d.day < monthLength d.year d.month ∨
      (d.month < 12 ∧ d = ⟨d.year, d.month, monthLength d.year d.month⟩) ∨
      d = ⟨d.year, 12, 31⟩ := by
  obtain ⟨year, month, day⟩ := d
  obtain ⟨hmonth, hmonth', hday, hday'⟩ := proper_mk.mp h
  rcases Nat.lt_or_eq_of_le hday' with hlt | rfl
  · exact Or.inl hlt
  · rcases Nat.lt_or_eq_of_le hmonth' with hlt | rfl
    · exact Or.inr (Or.inl ⟨hlt, rfl⟩)
    · exact Or.inr (Or.inr rfl)

theorem Proper.tomorrow {d : Date} (h : d.Proper) : d.tomorrow.Proper := by
  rcases h.cases with hlt | ⟨hmonth, heq⟩ | heq
  · rw [tomorrow_in_month hlt]
    exact proper_mk.mpr ⟨h.month_pos, h.month_le, Nat.le_add_left _ _, hlt⟩
  · rw [heq, tomorrow_last hmonth]
    exact proper_mk.mpr ⟨Nat.le_add_left _ _, hmonth, Nat.le_refl _, one_le_monthLength _ _⟩
  · rw [heq, tomorrow_new_year]
    exact proper_mk.mpr ⟨Nat.le_refl _, by decide, Nat.le_refl _, one_le_monthLength _ _⟩

end Next

/-! ## Numbers of days -/

/-- The days before the first of March of a year, counted from that of the year zero. -/
def daysBefore (year : Int) : Int :=
  365 * year + year / 4 - year / 100 + year / 400

theorem eras_eq (year : Int) :
    year / 400 * 146097 + (year % 400 * 365 + year % 400 / 4 - year % 400 / 100)
      = daysBefore year := by
  unfold daysBefore
  omega

/-- The leap day of a year comes before its March. -/
theorem daysBefore_succ (year : Int) :
    daysBefore year = daysBefore (year - 1) + 337 + monthLength year 2 := by
  have hlength : monthLength year 2 = if IsLeap year then 29 else 28 := if_pos rfl
  rw [hlength]
  unfold daysBefore
  by_cases hleap : IsLeap year
  · rw [if_pos hleap]
    unfold IsLeap at hleap
    omega
  · rw [if_neg hleap]
    unfold IsLeap at hleap
    omega

/-- The days from the first of March to the first of a month, March being month 0. -/
def daysToMonth (month : Nat) : Nat :=
  (153 * month + 2) / 5

/-- The year, with years that begin on the first of March. -/
def marchYear (d : Date) : Int :=
  if d.month ≤ 2 then d.year - 1 else d.year

def marchMonth (d : Date) : Nat :=
  if d.month ≤ 2 then d.month + 9 else d.month - 3

/-- The days since the first of March. -/
def marchDay (d : Date) : Nat :=
  daysToMonth d.marchMonth + d.day - 1

/-- The first of March of the year zero has the number -719468. -/
theorem toDays_eq (d : Date) : toDays d = daysBefore d.marchYear + d.marchDay - 719468 := by
  rw [← eras_eq, Int.add_assoc]
  rfl

section ToDays

variable {year : Int} {month day : Nat}

theorem toDays_early (hmonth : month ≤ 2) (hday : 1 ≤ day) :
    toDays ⟨year, month, day⟩
      = daysBefore (year - 1) + (daysToMonth (month + 9) + day : Nat) - 719469 := by
  simp only [toDays_eq, marchYear, marchDay, marchMonth, if_pos hmonth]
  omega

theorem toDays_late (hday : 1 ≤ day) :
    toDays ⟨year, month + 3, day⟩ = daysBefore year + (daysToMonth month + day : Nat) - 719469 := by
  have hmonth : ¬ month + 3 ≤ 2 := by omega
  simp only [toDays_eq, marchYear, marchDay, marchMonth, if_neg hmonth, Nat.add_sub_cancel]
  omega

/-- From one month to the next it is as many days as the month has. -/
theorem daysToMonth_succ (year : Int) (hmonth : month < 10) :
    daysToMonth (month + 1) = daysToMonth month + monthLength year (month + 3) := by
  have hmonths : ∀ m < 10, daysToMonth (m + 1) = daysToMonth m + monthLength 0 (m + 3) := by
    decide
  have hlength : monthLength year (month + 3) = monthLength 0 (month + 3) := by
    have hne : month + 3 ≠ 2 := by omega
    simp only [monthLength, if_neg hne]
  rw [hlength]
  exact hmonths month hmonth

theorem toDays_next_month (year : Int) (hmonth : 1 ≤ month) (hmonth' : month < 12) :
    toDays ⟨year, month + 1, 1⟩ = toDays ⟨year, month, monthLength year month⟩ + 1 := by
  have hpos := one_le_monthLength year month
  match month with
  | 1 =>
      have hlength : daysToMonth (1 + 9) + monthLength year 1 = daysToMonth (2 + 9) := rfl
      rw [toDays_early (by decide) (by decide), toDays_early (by decide) hpos, ← hlength]
      omega
  | 2 =>
      have hfebruary : daysToMonth (2 + 9) = 337 := rfl
      have hmarch : daysToMonth 0 = 0 := rfl
      rw [toDays_late (by decide), toDays_early (by decide) hpos, daysBefore_succ year,
        hfebruary, hmarch]
      omega
  | month + 3 =>
      have hlength := daysToMonth_succ year (show month < 10 by omega)
      rw [Nat.add_right_comm, toDays_late (by decide), toDays_late hpos, hlength]
      omega

theorem toDays_new_year (year : Int) : toDays ⟨year + 1, 1, 1⟩ = toDays ⟨year, 12, 31⟩ + 1 := by
  have hjanuary : daysToMonth (1 + 9) = daysToMonth 9 + 31 := rfl
  rw [toDays_early (by decide) (by decide), toDays_late (by decide), Int.add_sub_cancel, hjanuary]
  omega

/-- Within a month the days are counted on. -/
theorem toDays_next_day (hday : 1 ≤ day) :
    toDays ⟨year, month, day + 1⟩ = toDays ⟨year, month, day⟩ + 1 := by
  unfold toDays
  dsimp only
  omega

/-- The next date has the next number. -/
theorem toDays_tomorrow {d : Date} (h : d.Proper) : toDays d.tomorrow = toDays d + 1 := by
  rcases h.cases with hlt | ⟨hmonth, heq⟩ | heq
  · rw [tomorrow_in_month hlt]
    exact toDays_next_day h.day_pos
  · rw [heq, tomorrow_last hmonth]
    exact toDays_next_month d.year h.month_pos hmonth
  · rw [heq, tomorrow_new_year]
    exact toDays_new_year d.year

end ToDays

/-! ## Dates from numbers of days -/

/-- An era has centuries of 36524 days, in them fours of years of 1461 days, and single years of 365
days; the last four of the last century, and the last year of most fours, has a day more.  Taking
off a day for each four and adding one for each century leaves years of 365 days. -/
theorem years_of_days {c q s r n : Nat} (hc : c < 4) (hq : q < 25) (hs : s < 4) (hr : r ≤ 365)
    (hleap : r = 365 → s = 3 ∧ (q < 24 ∨ c = 3))
    (hn : n = 36524 * c + 1461 * q + 365 * s + r) :
    (n - n / 1460 + n / 36524 - n / 146096) / 365 = 100 * c + 4 * q + s := by
  have hfours : n / 1460 = 25 * c + q + if 1460 ≤ 24 * c + q + 365 * s + r then 1 else 0 := by
    split <;> omega
  by_cases hlast : r = 365 ∧ q = 24
  · -- on the last day of the era the divisions give one more, and cancel
    obtain ⟨rfl, rfl⟩ := hlast
    obtain ⟨rfl, hcentury⟩ := hleap rfl
    obtain rfl : c = 3 := by omega
    rw [hn]
  · have hcenturies : n / 36524 = c := by omega
    have hera : n / 146096 = 0 := by omega
    rw [hfours, hcenturies, hera]
    split <;> omega

/-- The year of an era from a day of the era.  Only a year that ends with a leap day has a day 365. -/
theorem yearOfEra_eq {y r n : Nat} (hy : y < 400) (hr : r ≤ 365)
    (hleap : r = 365 → IsLeap (y + 1)) (hn : n = 365 * y + y / 4 - y / 100 + r) :
    (n - n / 1460 + n / 36524 - n / 146096) / 365 = y := by
  have hlast : r = 365 → y % 4 = 3 ∧ (y % 100 / 4 < 24 ∨ y / 100 = 3) := by
    intro h
    have hyear := hleap h
    unfold IsLeap at hyear
    omega
  have hyears := years_of_days (c := y / 100) (q := y % 100 / 4) (s := y % 4) (n := n)
    (by omega) (by omega) (by omega) hr hlast (by omega)
  omega

/-- The month of a day of the year. -/
theorem monthOfYear_eq {month r : Nat} (hlow : daysToMonth month ≤ r)
    (hhigh : r < daysToMonth (month + 1)) : (5 * r + 2) / 153 = month := by
  unfold daysToMonth at hlow hhigh
  omega

namespace Proper

variable {d : Date} (h : d.Proper)

include h

/-- All months but February are as long as their places in the year say. -/
theorem march_cases :
    (d.marchMonth < 11 ∧
      daysToMonth (d.marchMonth + 1) = daysToMonth d.marchMonth + monthLength d.year d.month) ∨
    d.month = 2 := by
  obtain ⟨year, month, day⟩ := d
  match month, h.month_pos, h.month_le with
  | 1, _, _ =>
      have hmonth : marchMonth ⟨year, 1, day⟩ = 10 := rfl
      rw [hmonth]
      exact Or.inl ⟨by decide, rfl⟩
  | 2, _, _ => exact Or.inr rfl
  | month + 3, _, hle =>
      have hmonth : marchMonth ⟨year, month + 3, day⟩ = month := if_neg (by simp)
      have hlt : month < 10 := Nat.lt_of_add_lt_add_right (Nat.lt_succ_of_le hle)
      rw [hmonth]
      exact Or.inl ⟨Nat.lt_succ_of_lt hlt, daysToMonth_succ year hlt⟩

/-- February is cut off after its leap day, if it has one. -/
theorem marchDay_february (hmonth : d.month = 2) :
    d.marchMonth = 11 ∧ d.marchDay = 336 + d.day ∧ d.marchYear + 1 = d.year ∧ d.day ≤ 29 ∧
      (d.day = 29 → IsLeap d.year) := by
  have hlength : monthLength d.year d.month = if IsLeap d.year then 29 else 28 := if_pos hmonth
  have hday := h.day_pos
  have hday' := h.day_le
  have hmarch : d.marchMonth = 11 := by
    rw [marchMonth, if_pos (Nat.le_of_eq hmonth), hmonth]
  have hyear : d.marchYear = d.year - 1 := if_pos (Nat.le_of_eq hmonth)
  have hdays : d.marchDay = 336 + d.day := by
    have hfebruary : daysToMonth 11 = 337 := rfl
    rw [marchDay, hmarch, hfebruary]
    omega
  rw [hlength] at hday'
  refine ⟨hmarch, hdays, by omega, ?_, ?_⟩
  · split at hday' <;> omega
  · intro hleap
    by_cases hyear : IsLeap d.year
    · exact hyear
    · rw [if_neg hyear] at hday'
      omega

theorem le_marchDay : daysToMonth d.marchMonth ≤ d.marchDay := by
  have hday := h.day_pos
  unfold marchDay
  omega

theorem marchDay_lt : d.marchDay < daysToMonth (d.marchMonth + 1) := by
  have hday := h.day_pos
  rcases h.march_cases with ⟨-, hlength⟩ | hmonth
  · have hday' := h.day_le
    unfold marchDay
    omega
  · obtain ⟨hmarch, hdays, -, hday', -⟩ := h.marchDay_february hmonth
    have hyear : daysToMonth (11 + 1) = 367 := rfl
    rw [hmarch, hdays, hyear]
    omega

theorem marchDay_lt_february (hmonth : d.marchMonth < 11) : d.marchDay < 337 := by
  refine Nat.lt_of_lt_of_le h.marchDay_lt ?_
  unfold daysToMonth
  omega

theorem marchDay_le : d.marchDay ≤ 365 := by
  rcases h.march_cases with ⟨hmonth, -⟩ | hmonth
  · have hlt := h.marchDay_lt_february hmonth
    omega
  · obtain ⟨-, hdays, -, hday, -⟩ := h.marchDay_february hmonth
    omega

/-- Years that begin in March end with their leap day. -/
theorem isLeap_of_marchDay (hlast : d.marchDay = 365) : IsLeap (d.marchYear + 1) := by
  rcases h.march_cases with ⟨hmonth, -⟩ | hmonth
  · have hlt := h.marchDay_lt_february hmonth
    omega
  · obtain ⟨-, hdays, hyear, -, hleap⟩ := h.marchDay_february hmonth
    rw [hyear]
    exact hleap (by omega)

theorem month_of_march :
    (if d.marchMonth < 10 then d.marchMonth + 3 else d.marchMonth - 9) = d.month := by
  have hmonth := h.month_pos
  have hmonth' := h.month_le
  unfold marchMonth
  split
  · rw [if_neg (by omega)]
    omega
  · rw [if_pos (by omega)]
    omega

end Proper

theorem year_of_march (d : Date) : d.marchYear + (if d.month ≤ 2 then 1 else 0) = d.year := by
  unfold marchYear
  split <;> omega

/-- A date is found again from its number. -/
theorem ofDays_toDays {d : Date} (h : d.Proper) : ofDays (toDays d) = d := by
  obtain ⟨y, hy⟩ : ∃ y : Nat, d.marchYear % 400 = y := Int.eq_ofNat_of_zero_le (by omega)
  have hlt : y < 400 := by omega
  obtain ⟨n, hn⟩ : ∃ n, n = 365 * y + y / 4 - y / 100 + d.marchDay := ⟨_, rfl⟩
  have hr := h.marchDay_le
  have hera : (toDays d + 719468) / 146097 = d.marchYear / 400
      ∧ ((toDays d + 719468) % 146097).toNat = n := by
    have hyears := eras_eq d.marchYear
    rw [toDays_eq, ← hyears, hy]
    omega
  have hleap : d.marchDay = 365 → IsLeap (y + 1) := by
    intro hlast
    have hyear := h.isLeap_of_marchDay hlast
    unfold IsLeap at hyear ⊢
    omega
  have hyear := yearOfEra_eq hlt hr hleap hn
  have hday : n - (365 * y + y / 4 - y / 100) = d.marchDay := by omega
  have hmonth := monthOfYear_eq h.le_marchDay h.marchDay_lt
  have hback : d.marchDay - (153 * d.marchMonth + 2) / 5 + 1 = d.day := by
    have hpos := h.day_pos
    unfold marchDay daysToMonth
    omega
  have hyear' : (y : Int) + d.marchYear / 400 * 400 + (if d.month ≤ 2 then 1 else 0) = d.year := by
    rw [← hy, Int.add_comm (d.marchYear % 400), Int.mul_comm, Int.mul_ediv_add_emod]
    exact year_of_march d
  simp only [ofDays, hera.1, hera.2, hyear, hday, hmonth, hback, h.month_of_march, hyear']

/-! ## Dates so many days apart -/

/-- The date so many days on. -/
def later : Nat → Date → Date
  | 0, d => d
  | n + 1, d => later n d.tomorrow

/-- The second date is so many days after the first, or before it if the number is negative. -/
def DaysAfter (n : Int) (d e : Date) : Prop :=
  later n.toNat d = later (-n).toNat e

theorem later_spec {d : Date} (h : d.Proper) (n : Nat) :
    (later n d).Proper ∧ toDays (later n d) = toDays d + n := by
  induction n generalizing d with
  | zero => exact ⟨h, (Int.add_zero _).symm⟩
  | succ n ih =>
      obtain ⟨hproper, hdays⟩ := ih h.tomorrow
      refine ⟨hproper, hdays.trans ?_⟩
      rw [toDays_tomorrow h]
      omega

theorem eq_of_toDays {d e : Date} (hd : d.Proper) (he : e.Proper) (h : toDays d = toDays e) :
    d = e := by
  rw [← ofDays_toDays hd, ← ofDays_toDays he, h]

/-- Dates are so many days apart as their numbers are. -/
theorem daysAfter_iff {d e : Date} (hd : d.Proper) (he : e.Proper) {n : Int} :
    DaysAfter n d e ↔ toDays e = toDays d + n := by
  obtain ⟨hd', hdays⟩ := later_spec hd n.toNat
  obtain ⟨he', hdays'⟩ := later_spec he (-n).toNat
  constructor
  · intro h
    have hsame := congrArg toDays h
    omega
  · intro h
    exact eq_of_toDays hd' he' (by omega)

/-- Every number is that of a date: there is an earlier one, and counting on from it comes to it. -/
theorem exists_proper (n : Int) : ∃ d : Date, d.Proper ∧ toDays d = n := by
  have hearly : ∃ d : Date, d.Proper ∧ toDays d ≤ n := by
    refine ⟨⟨-n.natAbs, 3, 1⟩,
      proper_mk.mpr ⟨by decide, by decide, by decide, one_le_monthLength _ _⟩, ?_⟩
    have hmarch : daysToMonth 0 = 0 := rfl
    rw [toDays_late (by decide), hmarch]
    unfold daysBefore
    omega
  obtain ⟨d, hd, hle⟩ := hearly
  obtain ⟨hproper, hdays⟩ := later_spec hd (n - toDays d).toNat
  exact ⟨_, hproper, by omega⟩

theorem proper_ofDays (n : Int) : (ofDays n).Proper := by
  obtain ⟨d, hd, rfl⟩ := exists_proper n
  rwa [ofDays_toDays hd]

theorem toDays_ofDays (n : Int) : toDays (ofDays n) = n := by
  obtain ⟨d, hd, rfl⟩ := exists_proper n
  rw [ofDays_toDays hd]

/-- A date is one that is found again from its number. -/
theorem inCalendar_iff (d : Date) : d.inCalendar = true ↔ d.Proper := by
  constructor
  · intro h
    have hfound : ofDays d.toDays = d := eq_of_beq h
    rw [← hfound]
    exact proper_ofDays _
  · intro h
    exact beq_iff_eq.mpr (ofDays_toDays h)

/-! ## Years -/

theorem daysBefore_mono {year year' : Int} (h : year ≤ year') :
    daysBefore year ≤ daysBefore year' := by
  unfold daysBefore
  omega

/-- The first day of a year. -/
def newYear (year : Int) : Int :=
  toDays ⟨year, 1, 1⟩

theorem newYear_eq (year : Int) : newYear year = daysBefore (year - 1) + 306 - 719468 := by
  have hjanuary : daysToMonth (1 + 9) = 306 := rfl
  rw [newYear, toDays_early (by decide) (by decide), hjanuary]
  omega

theorem newYear_mono {year year' : Int} (h : year ≤ year') : newYear year ≤ newYear year' := by
  have hbefore := daysBefore_mono (Int.sub_le_sub_right h 1)
  rw [newYear_eq, newYear_eq]
  omega

/-- The dates of a year come before the next one. -/
theorem Proper.year_bounds {d : Date} (h : d.Proper) :
    newYear d.year ≤ toDays d ∧ toDays d < newYear (d.year + 1) := by
  have hyear := daysBefore_succ d.year
  have hlength := (monthLength_bounds d.year 2).1
  rw [newYear_eq, newYear_eq, toDays_eq, Int.add_sub_cancel]
  by_cases hearly : d.month ≤ 2
  · -- January and February end a year that began in March
    have hmarch : d.marchYear = d.year - 1 := if_pos hearly
    have hlow : 306 ≤ d.marchDay := by
      refine Nat.le_trans ?_ h.le_marchDay
      have hmonth := h.month_pos
      rw [marchMonth, if_pos hearly]
      unfold daysToMonth
      omega
    have hhigh := h.marchDay_le
    rw [hmarch]
    omega
  · have hmarch : d.marchYear = d.year := if_neg hearly
    have hhigh : d.marchDay < 306 := by
      refine Nat.lt_of_lt_of_le h.marchDay_lt ?_
      have hmonth := h.month_le
      rw [marchMonth, if_neg hearly]
      unfold daysToMonth
      omega
    rw [hmarch]
    omega

theorem Proper.newYear_le_iff {d : Date} (h : d.Proper) {year : Int} :
    newYear year ≤ toDays d ↔ year ≤ d.year := by
  obtain ⟨hlow, hhigh⟩ := h.year_bounds
  constructor
  · intro hafter
    refine Int.not_lt.mp ?_
    intro hlt
    have hmono := newYear_mono (Int.add_one_le_of_lt hlt)
    omega
  · intro hyear
    exact Int.le_trans (newYear_mono hyear) hlow

/-- The calendar has the days of the years from -262143 to 262142. -/
theorem inRange_iff {d : Date} (h : d.Proper) :
    inRange (toDays d) = true ↔ -262143 ≤ d.year ∧ d.year ≤ 262142 := by
  have hfirst : firstDay = newYear (-262143) := rfl
  have hlast : lastDay + 1 = newYear 262143 := (toDays_new_year 262142).symm
  have hlow : newYear (-262143) ≤ toDays d ↔ -262143 ≤ d.year := h.newYear_le_iff
  have hhigh : newYear 262143 ≤ toDays d ↔ 262143 ≤ d.year := h.newYear_le_iff
  simp only [inRange, Bool.and_eq_true, decide_eq_true_eq, hfirst]
  omega

end Dataspace.Time.Date
