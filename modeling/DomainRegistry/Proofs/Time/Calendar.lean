import DomainRegistry.Time.Calendar

/-!
Dates and counts of days. Main statements: the date of a day is the date that counts up to it, and
it is on the calendar as long as its year is.
-/

namespace DomainRegistry.Date

/-- The year, counted from March, of a day in the cycle of 400 years. -/
def yearOfCycle (day : Int) : Int := (day - day / 1460 + day / 36524 - day / 146096) / 365

/-- The first day of a year of the cycle. -/
def startOfYear (year : Int) : Int := 365 * year + year / 4 - year / 100

theorem century_eq {day : Int} (low : 0 ≤ day) (high : day < 146096) :
    yearOfCycle day / 100 = day / 36524 := by
  -- Once the century is fixed, all divisions are by constants.
  have few : day / 36524 = 0 ∨ day / 36524 = 1 ∨ day / 36524 = 2 ∨ day / 36524 = 3 := by omega
  unfold yearOfCycle
  rcases few with c | c | c | c <;> omega

/-- Days of a leap year past the 1460th since the last one still belong to that year. -/
theorem leaps_eq {day : Int} (low : 0 ≤ day) (high : day < 146096) :
    day / 1460 = yearOfCycle day / 4
      ∨ day / 1460 = yearOfCycle day / 4 + 1 ∧ yearOfCycle day % 4 = 3 := by
  have few : day / 36524 = 0 ∨ day / 36524 = 1 ∨ day / 36524 = 2 ∨ day / 36524 = 3 := by omega
  unfold yearOfCycle
  rcases few with c | c | c | c <;> rw [c] <;> omega

theorem startOfYear_le {day : Int} (low : 0 ≤ day) (high : day < 146096) :
    startOfYear (yearOfCycle day) ≤ day := by
  have century := century_eq low high
  have leaps := leaps_eq low high
  generalize same : yearOfCycle day = year at *
  unfold yearOfCycle at same
  unfold startOfYear
  omega

theorem lt_startOfYear_succ {day : Int} (low : 0 ≤ day) (high : day < 146096) :
    day < startOfYear (yearOfCycle day + 1) := by
  have century := century_eq low high
  have leaps := leaps_eq low high
  generalize same : yearOfCycle day = year at *
  unfold yearOfCycle at same
  unfold startOfYear
  by_cases last : year % 100 = 99
  · omega
  · have centuries : (year + 1) / 100 = year / 100 := by omega
    by_cases leap : year % 4 = 3
    · have quarters : (year + 1) / 4 = year / 4 + 1 := by omega
      omega
    · have quarters : (year + 1) / 4 = year / 4 := by omega
      omega

theorem isLeapYear_iff {year : Int} :
    isLeapYear year = true ↔ year % 4 = 0 ∧ year % 100 ≠ 0 ∨ year % 400 = 0 := by
  simp [isLeapYear]

/-- The leap day is the last day of a year that is counted from March. -/
theorem startOfYear_succ (year : Int) :
    startOfYear (year + 1) = startOfYear year + 365
      ∨ isLeapYear (year + 1) = true ∧ startOfYear (year + 1) = startOfYear year + 366 := by
  rw [isLeapYear_iff]
  unfold startOfYear
  by_cases quarter : (year + 1) % 4 = 0
  · have quarters : (year + 1) / 4 = year / 4 + 1 := by omega
    by_cases century : (year + 1) % 100 = 0
    · have centuries : (year + 1) / 100 = year / 100 + 1 := by omega
      omega
    · have centuries : (year + 1) / 100 = year / 100 := by omega
      omega
  · have quarters : (year + 1) / 4 = year / 4 := by omega
    have centuries : (year + 1) / 100 = year / 100 := by omega
    omega

structure InYear (day year dayOfYear : Int) : Prop where
  start : day = startOfYear year + dayOfYear
  first : 0 ≤ year
  last : year < 400
  least : 0 ≤ dayOfYear
  most : dayOfYear ≤ 365
  leap : dayOfYear = 365 → isLeapYear (year + 1) = true

theorem inYear {day : Int} (low : 0 ≤ day) (high : day < 146097) :
    InYear day (yearOfCycle day) (day - startOfYear (yearOfCycle day)) := by
  by_cases last : day = 146096
  · subst last
    exact ⟨by decide, by decide, by decide, by decide, by decide, by decide⟩
  · have early : day < 146096 := by omega
    have start := startOfYear_le low early
    have stop := lt_startOfYear_succ low early
    have century := century_eq low early
    rcases startOfYear_succ (yearOfCycle day) with common | ⟨leap, long⟩
    · exact ⟨by omega, by omega, by omega, by omega, by omega, by omega⟩
    · exact ⟨by omega, by omega, by omega, by omega, by omega, fun _ => leap⟩

/-- The place of a day of the year, counted from March, in its month. -/
structure InMonth (dayOfYear month day : Int) : Prop where
  start : dayOfYear = (153 * month + 2) / 5 + day
  first : 0 ≤ month
  last : month ≤ 11
  least : 0 ≤ day
  most : day ≤ 30
  short : month = 1 ∨ month = 3 ∨ month = 6 ∨ month = 8 → day ≤ 29
  february : month = 11 → day ≤ 28 ∧ (day = 28 → dayOfYear = 365)

theorem inMonth {dayOfYear : Int} (least : 0 ≤ dayOfYear) (most : dayOfYear ≤ 365) :
    InMonth dayOfYear ((5 * dayOfYear + 2) / 153)
      (dayOfYear - (153 * ((5 * dayOfYear + 2) / 153) + 2) / 5) := by
  constructor <;> omega

/-- A date by the cycle of 400 years, the year of the cycle and the month, counted from March. -/
structure Parts (days : Int) where
  cycle : Int
  day : Int
  year : Int
  dayOfYear : Int
  month : Int
  dayOfMonth : Int
  split : days + 719468 = cycle * 146097 + day
  least : 0 ≤ day
  most : day < 146097
  inYear : InYear day year dayOfYear
  inMonth : InMonth dayOfYear month dayOfMonth
  date : ofDays days =
    if month < 10 then ⟨year + cycle * 400, (month + 3).toNat, (dayOfMonth + 1).toNat⟩
    else ⟨year + cycle * 400 + 1, (month - 9).toNat, (dayOfMonth + 1).toNat⟩

def parts (days : Int) : Parts days where
  cycle := (days + 719468) / 146097
  day := (days + 719468) % 146097
  year := yearOfCycle ((days + 719468) % 146097)
  dayOfYear := _
  month := _
  dayOfMonth := _
  split := by omega
  least := by omega
  most := by omega
  inYear := inYear (by omega) (by omega)
  inMonth := inMonth (inYear (by omega) (by omega)).least (inYear (by omega) (by omega)).most
  date := rfl

theorem toDays_ofDays (days : Int) : (ofDays days).toDays = days := by
  obtain ⟨cycle, day, year, dayOfYear, month, dayOfMonth, split, least, most, y, m, date⟩ :=
    parts days
  obtain ⟨start, firstYear, lastYear, _, _, _⟩ := y
  obtain ⟨monthStart, firstMonth, lastMonth, firstDay, _, _, _⟩ := m
  unfold startOfYear at start
  rw [date]
  by_cases early : month < 10
  · rw [if_pos early]
    have late : ¬(month + 3).toNat ≤ 2 := by omega
    simp only [toDays, if_neg late]
    have sameCycle : (year + cycle * 400) / 400 = cycle := by omega
    have sameYear : (year + cycle * 400) % 400 = year := by omega
    rw [sameCycle, sameYear]
    omega
  · rw [if_neg early]
    have new : (month - 9).toNat ≤ 2 := by omega
    simp only [toDays, if_pos new]
    have sameCycle : (year + cycle * 400 + 1 - 1) / 400 = cycle := by omega
    have sameYear : (year + cycle * 400 + 1 - 1) % 400 = year := by omega
    rw [sameCycle, sameYear]
    omega

theorem isLeapYear_add_cycles (year cycles : Int) :
    isLeapYear (year + cycles * 400) = isLeapYear year := by
  rw [Bool.eq_iff_iff, isLeapYear_iff, isLeapYear_iff]
  omega

def MonthFits (d : Date) : Prop :=
  1 ≤ d.month ∧ d.month ≤ 12 ∧ 1 ≤ d.day ∧ d.day ≤ daysInMonth d.year d.month

theorem monthFits_ofDays (days : Int) : MonthFits (ofDays days) := by
  obtain ⟨cycle, day, year, dayOfYear, month, dayOfMonth, split, least, most, y, m, date⟩ :=
    parts days
  obtain ⟨_, firstMonth, lastMonth, firstDay, lastDay, short, february⟩ := m
  rw [date]
  by_cases early : month < 10
  · rw [if_pos early]
    refine ⟨by simp only; omega, by simp only; omega, by simp only; omega, ?_⟩
    simp only [daysInMonth]
    rw [if_neg (by omega)]
    split <;> omega
  · rw [if_neg early]
    refine ⟨by simp only; omega, by simp only; omega, by simp only; omega, ?_⟩
    simp only [daysInMonth]
    by_cases last : month = 11
    · obtain ⟨days, leap⟩ := february last
      rw [if_pos (by omega), Int.add_right_comm, isLeapYear_add_cycles]
      split
      · omega
      · next common =>
        have other : dayOfMonth ≠ 28 := fun leapDay => common (y.leap (leap leapDay))
        omega
    · rw [if_neg (by omega), if_neg (by omega)]
      omega

def minDay : Int := -96465292

def maxDay : Int := 95026236

theorem year_ofDays {days : Int} (low : minDay ≤ days) (high : days ≤ maxDay) :
    minYear ≤ (ofDays days).year ∧ (ofDays days).year ≤ maxYear := by
  obtain ⟨cycle, day, year, dayOfYear, month, dayOfMonth, split, least, most, y, m, date⟩ :=
    parts days
  obtain ⟨start, firstYear, lastYear, firstDay, lastDay, _⟩ := y
  obtain ⟨monthStart, _, _, firstOfMonth, lastOfMonth, _, _⟩ := m
  unfold startOfYear at start
  unfold minDay at low
  unfold maxDay at high
  unfold minYear maxYear
  -- The first and the last year are cut off at the turn of the calendar year, in January.
  have bottom : -656 < cycle ∨ cycle = -656 ∧ (256 < year ∨ year = 256 ∧ 306 ≤ dayOfYear) := by
    omega
  have top : cycle < 655 ∨ cycle = 655 ∧ (year < 142 ∨ year = 142 ∧ dayOfYear ≤ 305) := by
    omega
  rw [date]
  by_cases early : month < 10
  · rw [if_pos early]
    simp only
    omega
  · rw [if_neg early]
    simp only
    omega

theorem valid_ofDays {days : Int} (low : minDay ≤ days) (high : days ≤ maxDay) :
    (ofDays days).valid = true := by
  obtain ⟨least, most, first, last⟩ := monthFits_ofDays days
  have years := year_ofDays low high
  simp only [valid, Bool.and_eq_true, decide_eq_true_eq]
  exact ⟨⟨years, least, most⟩, first, last⟩

end DomainRegistry.Date
