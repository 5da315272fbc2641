import ErrorReport.Calendar
import Mathlib.Tactic.IntervalCases

/-!
# The calendar and the count of days

`Date.days` counts the days up to a date: whole years (`daysBeforeYear`), whole months of the last
one (`daysBeforeMonth`), and the day.  `Date.ofDays` finds the date of a count, and is its inverse:
there is such a date (`isValid_ofDays`), and its count is the one given (`days_ofDays`).  Later dates
have greater counts (`Before.days_lt`), so no other date has it.

`Date.ofDays` starts years in March and divides a count without leap days by the 365 days of the
others.  That this finds the year is shown in `start_yearOfEra_le` and `lt_start_yearOfEra`; from
there on, everything is about the days of a single year.
-/

set_option autoImplicit false

namespace ErrorReport.Date

/-! ## Years -/

/-- How many days a year has. -/
def yearLength (year : Int) : Nat := if isLeap year then 366 else 365

theorem yearLength_le (year : Int) : yearLength year ≤ 366 := by
  unfold yearLength
  split <;> omega

/-- How many days lie between the start of year 1 and the start of a year. -/
def daysBeforeYear (year : Int) : Int :=
  365 * (year - 1) + (year - 1) / 4 - (year - 1) / 100 + (year - 1) / 400

theorem days_eq (d : Date) :
    d.days = daysBeforeYear d.year + daysBeforeMonth d.year d.month + d.day - 719163 := rfl

theorem daysBeforeYear_succ (year : Int) :
    daysBeforeYear (year + 1) = daysBeforeYear year + yearLength year := by
  unfold daysBeforeYear yearLength isLeap
  by_cases h4 : year % 4 = 0 <;> by_cases h100 : year % 100 = 0 <;>
    by_cases h400 : year % 400 = 0 <;> simp [h4, h100, h400] <;> omega

theorem daysBeforeYear_mono {year other : Int} (h : year ≤ other) :
    daysBeforeYear year ≤ daysBeforeYear other := by
  unfold daysBeforeYear
  omega

/-! ## Months -/

theorem daysBeforeMonth_succ (year : Int) {month : Nat} (h : 1 ≤ month) :
    daysBeforeMonth year (month + 1) = daysBeforeMonth year month + monthLength year month := by
  obtain ⟨month, rfl⟩ := Nat.exists_eq_add_of_le' h
  rfl

theorem daysBeforeMonth_mono (year : Int) {month other : Nat} (hpos : 1 ≤ month)
    (h : month ≤ other) : daysBeforeMonth year month ≤ daysBeforeMonth year other := by
  induction other, h using Nat.le_induction with
  | base => exact Nat.le_refl _
  | succ other hle ih => rw [daysBeforeMonth_succ year (by omega)]; omega

/-- From March on months take turns with 31 and 30 days, and five of them have 153. -/
theorem daysBeforeMonth_fromMarch (year : Int) {month : Nat} (h : month ≤ 10) :
    daysBeforeMonth year (month + 3) + 306 = yearLength year + (153 * month + 2) / 5 := by
  unfold yearLength
  cases hleap : isLeap year <;> interval_cases month <;>
    simp [daysBeforeMonth, monthLength, hleap]

/-- The twelve months make up the year. -/
theorem daysBeforeMonth_thirteen (year : Int) : daysBeforeMonth year 13 = yearLength year := by
  have hall : daysBeforeMonth year 13 + 306 = yearLength year + 306 :=
    daysBeforeMonth_fromMarch year (Nat.le_refl 10)
  omega

theorem monthLength_le (year : Int) (month : Nat) : monthLength year month ≤ 31 := by
  unfold monthLength
  repeat' split
  all_goals omega

theorem monthLength_february (year : Int) : monthLength year 2 + 337 = yearLength year := by
  unfold yearLength
  cases hleap : isLeap year <;> simp [monthLength, hleap]

/-! ## Years of an era that start in March -/

/-- How many days of an era lie before one of its years. -/
def start (year : Nat) : Nat := 365 * year + year / 4 - year / 100 + year / 400

/-- The days of an era up to a day, leap days aside. -/
def ordinaryDays (day : Nat) : Nat := day - day / 1460 + day / 36524 - day / 146096

/-- The year of a day of an era. -/
def yearOfEra (day : Nat) : Nat := ordinaryDays day / 365

theorem ordinaryDays_mono {day other : Nat} (h : day ≤ other) (hother : other < 146097) :
    ordinaryDays day ≤ ordinaryDays other := by
  unfold ordinaryDays
  omega

/-- A year is some centuries, some times four years in the century, and some years. -/
theorem start_eq {century four year : Nat} (hfour : four < 25) (hyear : year < 4)
    (hcentury : century < 4) : start (100 * century + 4 * four + year) =
      36524 * century + 1461 * four + 365 * year := by
  unfold start
  omega

/-- When a year starts, each leap day before it has been left out, and no other day. -/
theorem ordinaryDays_start {year : Nat} (h : year < 400) :
    ordinaryDays (start year) = 365 * year ∧
      (0 < year → ordinaryDays (start year - 1) < 365 * year) := by
  obtain ⟨century, four, rest, hcentury, hfour, hrest, rfl⟩ : ∃ century four rest,
      century < 4 ∧ four < 25 ∧ rest < 4 ∧ year = 100 * century + 4 * four + rest :=
    ⟨year / 100, year % 100 / 4, year % 4, by omega, by omega, by omega, by omega⟩
  rw [start_eq hfour hrest hcentury]
  generalize hday : 36524 * century + 1461 * four + 365 * rest = day
  have hleaps : day / 1460 = 25 * century + four := by omega
  have hcenturies : day / 36524 = century := by omega
  have hera : day / 146096 = 0 := by omega
  have hleaps' : 0 < day → (day - 1) / 1460 = 25 * century + four := by omega
  have hcenturies' : (day - 1) / 36524 ≤ century := by omega
  unfold ordinaryDays
  omega

theorem yearOfEra_lt {day : Nat} (h : day < 146097) : yearOfEra day < 400 := by
  have hlast : ordinaryDays day ≤ ordinaryDays 146096 := ordinaryDays_mono (by omega) (by decide)
  have hall : ordinaryDays 146096 = 145999 := by decide
  unfold yearOfEra
  omega

/-- A day lies in its year: the year has started, -/
theorem start_yearOfEra_le {day : Nat} (h : day < 146097) : start (yearOfEra day) ≤ day := by
  by_contra hlt
  rw [Nat.not_le] at hlt
  have hstart : start (yearOfEra day) ≤ 146097 := by
    have := yearOfEra_lt h
    unfold start
    omega
  have hpos : 0 < yearOfEra day := Nat.pos_of_ne_zero fun hzero => by simp [hzero, start] at hlt
  have hbefore := (ordinaryDays_start (yearOfEra_lt h)).2 hpos
  have hle : ordinaryDays day ≤ ordinaryDays (start (yearOfEra day) - 1) :=
    ordinaryDays_mono (by omega) (by omega)
  have hdiv : 365 * yearOfEra day ≤ ordinaryDays day := Nat.mul_div_le _ _
  omega

/-- and the next one has not. -/
theorem lt_start_yearOfEra {day : Nat} (h : day < 146097) :
    day < start (yearOfEra day + 1) := by
  rcases Nat.lt_or_ge (yearOfEra day + 1) 400 with hyear | hyear
  · by_contra hle
    rw [Nat.not_lt] at hle
    have hstart := (ordinaryDays_start hyear).1
    have hmono := ordinaryDays_mono hle h
    have hdiv : ordinaryDays day < 365 * (yearOfEra day + 1) :=
      Nat.lt_mul_div_succ _ (by decide)
    omega
  · have hlast : yearOfEra day + 1 = 400 := by
      have := yearOfEra_lt h
      omega
    rw [hlast]
    exact h

/-! ## The date of a count -/

/-- The date of a day of a year that starts in March. -/
def ofMarch (year : Int) (day : Nat) : Date :=
  let month := (5 * day + 2) / 153
  if month < 10 then ⟨year, month + 3, day - (153 * month + 2) / 5 + 1⟩
  else ⟨year + 1, month - 9, day - (153 * month + 2) / 5 + 1⟩

theorem ofDays_eq (days : Int) {era : Int} {day : Nat} (hday : day < 146097)
    (hdays : days + 719468 = 146097 * era + day) :
    ofDays days = ofMarch (yearOfEra day + era * 400) (day - start (yearOfEra day)) := by
  have hera : era = (days + 719468) / 146097 := by omega
  have hrest : day = ((days + 719468) % 146097).toNat := by omega
  have hstart : start (yearOfEra day) =
      365 * yearOfEra day + yearOfEra day / 4 - yearOfEra day / 100 := by
    have := yearOfEra_lt hday
    unfold start
    omega
  rw [hstart, hera, hrest]
  rfl

/-- All eras have the same number of days. -/
theorem daysBeforeYear_era (era : Int) (year : Nat) :
    daysBeforeYear (year + era * 400 + 1) = 146097 * era + start year := by
  unfold daysBeforeYear start
  omega

/-- A count of days is some years that start in March and a day of the next one. -/
theorem exists_ofMarch (days : Int) : ∃ year day, day < yearLength (year + 1) ∧
    days + 719468 = daysBeforeYear (year + 1) + day ∧ ofDays days = ofMarch year day := by
  obtain ⟨era, day, hday, hdays⟩ :
      ∃ (era : Int) (day : Nat), day < 146097 ∧ days + 719468 = 146097 * era + day :=
    ⟨(days + 719468) / 146097, ((days + 719468) % 146097).toNat, by omega, by omega⟩
  have hstart := start_yearOfEra_le hday
  have hnext := lt_start_yearOfEra hday
  have hyear := daysBeforeYear_era era (yearOfEra day)
  refine ⟨_, _, ?_, ?_, ofDays_eq days hday hdays⟩
  · have hsucc := daysBeforeYear_succ (yearOfEra day + era * 400 + 1)
    have hyear' := daysBeforeYear_era era (yearOfEra day + 1)
    rw [Nat.cast_succ, Int.add_right_comm _ 1] at hyear'
    omega
  · omega

/-- A year that starts in March has ten months of its own year and two of the next one. -/
theorem ofMarch_cases (year : Int) {day : Nat} (h : day < 366) :
    (∃ month < 10, 153 * month ≤ 5 * day + 2 ∧ 5 * day + 2 < 153 * (month + 1) ∧
      ofMarch year day = ⟨year, month + 3, day - (153 * month + 2) / 5 + 1⟩) ∨
    (306 ≤ day ∧ day < 337 ∧ ofMarch year day = ⟨year + 1, 1, day - 306 + 1⟩) ∨
    (337 ≤ day ∧ ofMarch year day = ⟨year + 1, 2, day - 337 + 1⟩) := by
  rw [ofMarch]
  generalize hmonth : (5 * day + 2) / 153 = month
  rcases Nat.lt_or_ge month 10 with hlt | hge
  · exact .inl ⟨month, hlt, by omega, by omega, if_pos hlt⟩
  · obtain rfl | rfl : month = 10 ∨ month = 11 := by omega
    · exact .inr (.inl ⟨by omega, by omega, rfl⟩)
    · exact .inr (.inr ⟨by omega, rfl⟩)

theorem days_ofMarch {year : Int} {day : Nat} (h : day < 366) :
    (ofMarch year day).days + 719468 = daysBeforeYear (year + 1) + day := by
  have hyear := daysBeforeYear_succ year
  rcases ofMarch_cases year h with ⟨month, hmonth, hle, -, hdate⟩ | ⟨hle, -, hdate⟩ | ⟨hle, hdate⟩
  · have hmonths := daysBeforeMonth_fromMarch year (Nat.le_of_lt hmonth)
    simp only [hdate, days_eq]
    omega
  · have hmonths : daysBeforeMonth (year + 1) 1 = 0 := rfl
    simp only [hdate, days_eq, hmonths]
    omega
  · have hmonths : daysBeforeMonth (year + 1) 2 = 31 := rfl
    simp only [hdate, days_eq, hmonths]
    omega

theorem isValid_ofMarch {year : Int} {day : Nat} (h : day < yearLength (year + 1)) :
    (ofMarch year day).isValid = true := by
  have hday : day < 366 := Nat.lt_of_lt_of_le h (yearLength_le _)
  rcases ofMarch_cases year hday with ⟨month, hmonth, hle, hlt, hdate⟩ | ⟨hle, hlt, hdate⟩ | ⟨hle, hdate⟩
  · have hmonths := daysBeforeMonth_fromMarch year (Nat.le_of_lt hmonth)
    have hnext : daysBeforeMonth year (month + 3) + monthLength year (month + 3) + 306 =
        yearLength year + (153 * (month + 1) + 2) / 5 := daysBeforeMonth_fromMarch year hmonth
    simp only [hdate, isValid, Bool.and_eq_true, decide_eq_true_eq]
    omega
  · have hmonths : monthLength (year + 1) 1 = 31 := rfl
    simp only [hdate, isValid, hmonths, Bool.and_eq_true, decide_eq_true_eq]
    omega
  · have hmonths := monthLength_february (year + 1)
    simp only [hdate, isValid, Bool.and_eq_true, decide_eq_true_eq]
    omega

/-- **The date of a count of days has that count.** -/
theorem days_ofDays (days : Int) : (ofDays days).days = days := by
  obtain ⟨year, day, hday, hdays, hofDays⟩ := exists_ofMarch days
  rw [hofDays]
  have hmarch : (ofMarch year day).days + 719468 = daysBeforeYear (year + 1) + day :=
    days_ofMarch (Nat.lt_of_lt_of_le hday (yearLength_le _))
  omega

theorem isValid_ofDays (days : Int) : (ofDays days).isValid = true := by
  obtain ⟨year, day, hday, -, hofDays⟩ := exists_ofMarch days
  rw [hofDays, isValid_ofMarch hday]

/-! ## The order of dates -/

/-- A date lies before another one. -/
def Before (d e : Date) : Prop :=
  d.year < e.year ∨
    d.year = e.year ∧ (d.month < e.month ∨ d.month = e.month ∧ d.day < e.day)

theorem isValid_iff {d : Date} : d.isValid = true ↔
    1 ≤ d.month ∧ d.month ≤ 12 ∧ 1 ≤ d.day ∧ d.day ≤ monthLength d.year d.month := by
  simp only [isValid, Bool.and_eq_true, decide_eq_true_eq, and_assoc]

/-- The days of a date's months up to its day are days of its year. -/
theorem daysBeforeMonth_add_day_le {d : Date} (h : d.isValid = true) :
    daysBeforeMonth d.year d.month + d.day ≤ yearLength d.year := by
  obtain ⟨hpos, hle, -, hday⟩ := isValid_iff.1 h
  have hsucc := daysBeforeMonth_succ d.year hpos
  have hall := daysBeforeMonth_mono d.year (Nat.le_add_left 1 d.month) (Nat.succ_le_succ hle)
  rw [daysBeforeMonth_thirteen] at hall
  omega

/-- **Later dates have greater counts of days.** -/
theorem Before.days_lt {d e : Date} (h : d.Before e) (hd : d.isValid = true)
    (he : e.isValid = true) : d.days < e.days := by
  obtain ⟨hposd, -, -, hdayd⟩ := isValid_iff.1 hd
  obtain ⟨-, -, hdaye, -⟩ := isValid_iff.1 he
  rw [days_eq, days_eq]
  rcases h with hyear | ⟨hyear, hmonth | ⟨hmonth, hday⟩⟩
  · have hyears := daysBeforeYear_mono (Int.add_one_le_of_lt hyear)
    rw [daysBeforeYear_succ] at hyears
    have := daysBeforeMonth_add_day_le hd
    omega
  · have hmonths := daysBeforeMonth_mono d.year (Nat.le_add_left 1 d.month) hmonth
    rw [daysBeforeMonth_succ d.year hposd] at hmonths
    rw [← hyear]
    omega
  · rw [← hyear, ← hmonth]
    omega

end ErrorReport.Date
