import Mathlib.Tactic.Common
import Podkeeper.Time.Instant

/-!
Days and dates.

Dates are counted from March in eras of 400 years. A day of an era is a day of one of its years
(`Date.inYear`), and that is a day of one of the months (`Date.inMonth`), where only the last month
differs from year to year. So each day has a date and the date has that day (`Date.toDays_ofDays`),
and the days of the calendar have dates of the calendar (`Date.isValid_ofDays`).
-/

namespace Podkeeper.Date

/-! ### Years of an era -/

/-- The year that a day of an era is in. -/
def yearOfEra (n : Int) : Int := (n - n / 1460 + n / 36524 - n / 146096) / 365

/-- The day of an era that a year begins with. -/
def startOfYear (year : Int) : Int := 365 * year + year / 4 - year / 100

/-- A year of an era has this day. A year from March to March ends with the leap day of the year
after it. -/
structure InYear (year day : Int) : Prop where
  first : 0 ≤ year
  last : year ≤ 399
  least : 0 ≤ day
  most : day ≤ 364 ∨ day = 365 ∧ isLeapYear (year + 1) = true

theorem isLeapYear_iff {year : Int} :
    isLeapYear year = true ↔ year % 4 = 0 ∧ (year % 100 = 0 → year % 400 = 0) := by
  rw [isLeapYear, Bool.and_eq_true, Bool.or_eq_true, bne_iff_ne, beq_iff_eq, beq_iff_eq,
    or_iff_not_imp_left, not_not]

theorem isLeapYear_add_eras (year era : Int) :
    isLeapYear (year + era * 400) = isLeapYear year := by
  rw [Bool.eq_iff_iff, isLeapYear_iff, isLeapYear_iff]
  omega

/-- Each day of an era is in one of its years. -/
theorem inYear {n : Int} (least : 0 ≤ n) (small : n < 146097) :
    InYear (yearOfEra n) (n - startOfYear (yearOfEra n)) := by
  by_cases last : n = 146096
  · subst last
    exact ⟨by decide, by decide, by decide, .inr ⟨by decide, by decide⟩⟩
  -- with a leap day for each century there is one in every four years, of 1461 days
  obtain ⟨century, centuries⟩ : ∃ century, n / 36524 = century := ⟨_, rfl⟩
  obtain ⟨four, fours⟩ : ∃ four, (n + century) / 1461 = four := ⟨_, rfl⟩
  obtain ⟨rest, split⟩ : ∃ rest, n + century = 1461 * four + rest :=
    ⟨n + century - 1461 * four, by omega⟩
  have century_le : 0 ≤ century ∧ century ≤ 3 := by omega
  have four_le : 25 * century ≤ four ∧ four ≤ 25 * century + 24 := by omega
  have rest_le : 0 ≤ rest ∧ rest ≤ 1460 := by omega
  have leapless : rest = 1460 → four ≤ 25 * century + 23 := by omega
  have whole : n / 146096 = 0 := by omega
  have year : ∃ j, 0 ≤ j ∧ j ≤ 3 ∧ 365 * j ≤ rest ∧ rest ≤ 365 * j + 365 ∧
      (rest = 365 * j + 365 → j = 3) ∧ yearOfEra n = 4 * four + j := by
    rw [yearOfEra, centuries, whole]
    by_cases late : 1460 ≤ four + rest - century
    · have ahead : n / 1460 = four + 1 := by omega
      rw [ahead]
      exact ⟨3, by omega, by omega, by omega, by omega, by omega, by omega⟩
    · have same : n / 1460 = four := by omega
      rw [same]
      exact ⟨rest / 365, by omega, by omega, by omega, by omega, by omega, by omega⟩
  obtain ⟨j, j_least, j_most, begun, unfinished, last_day, year⟩ := year
  have by_four : (4 * four + j) / 4 = four := by omega
  have by_hundred : (4 * four + j) / 100 = century := by omega
  rw [year, startOfYear, by_four, by_hundred]
  refine ⟨by omega, by omega, by omega, ?_⟩
  by_cases leap : rest = 365 * j + 365
  · refine .inr ⟨by omega, isLeapYear_iff.2 ⟨by omega, ?_⟩⟩
    intro hundredth
    exact absurd (leapless (by omega)) (by omega)
  · exact .inl (by omega)

/-! ### Months of a year -/

/-- The month that a day of a year is in, counted from March. -/
def monthOfYear (day : Int) : Int := (5 * day + 2) / 153

/-- The day of a year that a month begins with. -/
def startOfMonth (month : Int) : Int := (153 * month + 2) / 5

/-- The number of a month in the calendar. -/
def monthNumber (month : Int) : Nat := (if month < 10 then month + 3 else month - 9).toNat

/-- A day of a year is in one of the months. -/
structure InMonth (month day : Int) : Prop where
  first : 0 ≤ month
  last : month ≤ 11
  least : startOfMonth month ≤ day
  most : day < startOfMonth (month + 1)

theorem inMonth {day : Int} (least : 0 ≤ day) (most : day ≤ 365) :
    InMonth (monthOfYear day) day := by
  constructor <;> simp only [monthOfYear, startOfMonth] <;> omega

/-- All months but the last have the same length in all years. -/
theorem startOfMonth_succ {month : Int} (least : 0 ≤ month) (most : month ≤ 10) (year : Int) :
    startOfMonth (month + 1) = startOfMonth month + daysInMonth year (monthNumber month) := by
  have among : month = 0 ∨ month = 1 ∨ month = 2 ∨ month = 3 ∨ month = 4 ∨ month = 5 ∨
      month = 6 ∨ month = 7 ∨ month = 8 ∨ month = 9 ∨ month = 10 := by
    omega
  rcases among with rfl | rfl | rfl | rfl | rfl | rfl | rfl | rfl | rfl | rfl | rfl <;> rfl

theorem isValid_iff {d : Date} :
    d.isValid = true ↔ (minYear ≤ d.year ∧ d.year ≤ maxYear) ∧ (1 ≤ d.month ∧ d.month ≤ 12) ∧
      1 ≤ d.day ∧ d.day ≤ daysInMonth d.year d.month := by
  simp only [isValid, Bool.and_eq_true, decide_eq_true_eq, and_assoc]

theorem daysInMonth_le (year : Int) (month : Nat) : daysInMonth year month ≤ 31 := by
  rw [daysInMonth]
  split
  · split <;> decide
  · split <;> decide

/-! ### Dates -/

/-- A date of which year and month are counted from March. -/
def ofMarch (year month day : Int) : Date :=
  ⟨if (if month < 10 then month + 3 else month - 9) ≤ 2 then year + 1 else year,
    monthNumber month, day.toNat⟩

theorem ofMarch_year {year month day : Int} (first : 0 ≤ month) (last : month ≤ 11) :
    (ofMarch year month day).year = if month < 10 then year else year + 1 := by
  by_cases early : month < 10
  · have late : ¬ month + 3 ≤ 2 := by omega
    simp only [ofMarch, if_pos early, if_neg late]
  · have next : month - 9 ≤ 2 := by omega
    simp only [ofMarch, if_neg early, if_pos next]

/-- The date of a day, in the year of its era and the month of that year. -/
theorem exists_ofMarch (days : Int) :
    ∃ era year day month : Int, InYear year day ∧ InMonth month day ∧
      days = era * 146097 + (startOfYear year + day) - 719468 ∧
      ofDays days = ofMarch (year + era * 400) month (day - startOfMonth month + 1) := by
  obtain ⟨era, eras⟩ : ∃ era, (days + 719468) / 146097 = era := ⟨_, rfl⟩
  obtain ⟨n, split⟩ : ∃ n, days + 719468 - era * 146097 = n := ⟨_, rfl⟩
  have here := inYear (n := n) (by omega) (by omega)
  refine ⟨era, yearOfEra n, n - startOfYear (yearOfEra n), _, here,
    inMonth here.least (by have := here.most; omega), by omega, ?_⟩
  simp only [ofDays, Int.fdiv_eq_ediv_of_nonneg _ (by decide : (0 : Int) ≤ 146097), eras, split]
  rfl

/-- Years of an era are counted from March in both directions. -/
theorem toDays_ofMarch {era year month day : Int} (first : 0 ≤ year) (last : year ≤ 399)
    (first' : 0 ≤ month) (last' : month ≤ 11) (least : 1 ≤ day) :
    (ofMarch (year + era * 400) month day).toDays =
      era * 146097 + (startOfYear year + (startOfMonth month + day - 1)) - 719468 := by
  have eras : Int.fdiv (year + era * 400) 400 = era := by
    rw [Int.fdiv_eq_ediv_of_nonneg _ (by decide)]
    omega
  have inEra : year + era * 400 - era * 400 = year := by omega
  have same : (day.toNat : Int) = day := by omega
  by_cases early : month < 10
  · have late : ¬ month + 3 ≤ 2 := by omega
    have late' : ¬ (month + 3).toNat ≤ 2 := by omega
    have back : ((month + 3).toNat : Int) - 3 = month := by omega
    simp only [ofMarch, monthNumber, if_pos early, if_neg late, toDays, if_neg late', back, eras,
      inEra, same, startOfYear, startOfMonth]
    omega
  · have next : month - 9 ≤ 2 := by omega
    have next' : (month - 9).toNat ≤ 2 := by omega
    have back : ((month - 9).toNat : Int) + 9 = month := by omega
    have before : year + era * 400 + 1 - 1 = year + era * 400 := by omega
    simp only [ofMarch, monthNumber, if_neg early, if_pos next, toDays, if_pos next', back, before,
      eras, inEra, same, startOfYear, startOfMonth]
    omega

/-- The date of a day has that day. -/
theorem toDays_ofDays (days : Int) : (ofDays days).toDays = days := by
  obtain ⟨era, year, day, month, inYear, inMonth, rfl, date⟩ := exists_ofMarch days
  have begun := inMonth.least
  rw [date, toDays_ofMarch inYear.first inYear.last inMonth.first inMonth.last (by omega)]
  omega

/-- A month has the days up to its last one. -/
theorem day_le_daysInMonth (era : Int) {year month day : Int} (inYear : InYear year day)
    (inMonth : InMonth month day) :
    day - startOfMonth month + 1 ≤
      daysInMonth (ofMarch (year + era * 400) month (day - startOfMonth month + 1)).year
        (monthNumber month) := by
  have before := inMonth.most
  by_cases early : month ≤ 10
  · rw [startOfMonth_succ inMonth.first early
      (ofMarch (year + era * 400) month (day - startOfMonth month + 1)).year] at before
    omega
  · have february : month = 11 := by have := inMonth.last; omega
    subst february
    have start : startOfMonth 11 = 337 := rfl
    have next : year + era * 400 + 1 = year + 1 + era * 400 := by omega
    rw [ofMarch_year (by decide) (by decide), if_neg (by decide), next, start]
    have length : daysInMonth (year + 1 + era * 400) (monthNumber 11) =
        if isLeapYear (year + 1) then 29 else 28 := by
      rw [← isLeapYear_add_eras (year + 1) era]
      rfl
    rw [length]
    rcases inYear.most with usual | ⟨last, leap⟩
    · split <;> omega
    · rw [if_pos leap]
      omega

/-- The years of the calendar, from the first day of the first one to the last day of the last. -/
theorem year_of_days {era year day month : Int} (inYear : InYear year day)
    (inMonth : InMonth month day)
    (least : toDays ⟨minYear, 1, 1⟩ ≤ era * 146097 + (startOfYear year + day) - 719468)
    (most : era * 146097 + (startOfYear year + day) - 719468 ≤ toDays ⟨maxYear, 12, 31⟩) (d : Int) :
    minYear ≤ (ofMarch (year + era * 400) month d).year ∧
      (ofMarch (year + era * 400) month d).year ≤ maxYear := by
  have first : toDays ⟨minYear, 1, 1⟩ = -96465292 := rfl
  have last : toDays ⟨maxYear, 12, 31⟩ = 95026236 := rfl
  obtain ⟨first_year, last_year, first_day, last_day⟩ := inYear
  obtain ⟨first_month, last_month, begun, unfinished⟩ := inMonth
  rw [ofMarch_year first_month last_month]
  rw [first, startOfYear] at least
  rw [last, startOfYear] at most
  rw [startOfMonth] at begun unfinished
  rw [minYear, maxYear]
  have eras : -656 ≤ era ∧ era ≤ 655 := by omega
  have january : month < 10 → day ≤ 305 := by omega
  have december : ¬ month < 10 → 306 ≤ day := by omega
  by_cases early : era = -656
  · subst early
    split <;> omega
  · by_cases late : era = 655
    · subst late
      split <;> omega
    · split <;> omega

/-- The days of the calendar have dates of the calendar. -/
theorem isValid_ofDays {days : Int} (least : toDays ⟨minYear, 1, 1⟩ ≤ days)
    (most : days ≤ toDays ⟨maxYear, 12, 31⟩) : (ofDays days).isValid = true := by
  obtain ⟨era, year, day, month, inYear, inMonth, rfl, date⟩ := exists_ofMarch days
  have years := year_of_days inYear inMonth least most (day - startOfMonth month + 1)
  have length := day_le_daysInMonth era inYear inMonth
  have months : 1 ≤ monthNumber month ∧ monthNumber month ≤ 12 := by
    have first := inMonth.first
    have last := inMonth.last
    rw [monthNumber]
    split <;> omega
  have begun := inMonth.least
  rw [date, isValid_iff]
  refine ⟨years, months, ?_, ?_⟩
  · change 1 ≤ (day - startOfMonth month + 1).toNat
    omega
  · change (day - startOfMonth month + 1).toNat ≤ daysInMonth _ (monthNumber month)
    omega

end Podkeeper.Date
