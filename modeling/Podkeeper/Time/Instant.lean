/-
Instants in universal time.

An instant is a count of seconds since the beginning of 1970 and of nanoseconds within the second.
A leap second is the second after the last one of a minute: it keeps that second's count and has
a thousand million nanoseconds more. Days turn into dates of the Gregorian calendar and back.
Years go from -262143 to 262142.
-/

namespace Podkeeper

/-- A date of the Gregorian calendar, continued in both directions. -/
structure Date where
  year : Int
  month : Nat
  day : Nat
deriving DecidableEq, Repr

namespace Date

/-- The year has a 29th of February. -/
def isLeapYear (year : Int) : Bool :=
  year % 4 == 0 && (year % 100 != 0 || year % 400 == 0)

/-- How many days a month has. -/
def daysInMonth (year : Int) (month : Nat) : Nat :=
  if month = 2 then (if isLeapYear year then 29 else 28)
  else if month = 4 ∨ month = 6 ∨ month = 9 ∨ month = 11 then 30
  else 31

def minYear : Int := -262143

def maxYear : Int := 262142

/-- The date is in the calendar. -/
def isValid (d : Date) : Bool :=
  minYear ≤ d.year && d.year ≤ maxYear && 1 ≤ d.month && d.month ≤ 12 && 1 ≤ d.day &&
    d.day ≤ daysInMonth d.year d.month

/-- Days since the first of January 1970. Years are counted from March, so that a leap day is
the last day of its year. -/
def toDays (d : Date) : Int :=
  let y := if d.month ≤ 2 then d.year - 1 else d.year
  let era := Int.fdiv y 400
  let yearOfEra := y - era * 400
  let monthFromMarch : Int := if d.month ≤ 2 then d.month + 9 else d.month - 3
  let dayOfYear := (153 * monthFromMarch + 2) / 5 + d.day - 1
  let dayOfEra := yearOfEra * 365 + yearOfEra / 4 - yearOfEra / 100 + dayOfYear
  era * 146097 + dayOfEra - 719468

def ofDays (days : Int) : Date :=
  let z := days + 719468
  let era := Int.fdiv z 146097
  let dayOfEra := z - era * 146097
  let yearOfEra := (dayOfEra - dayOfEra / 1460 + dayOfEra / 36524 - dayOfEra / 146096) / 365
  let dayOfYear := dayOfEra - (365 * yearOfEra + yearOfEra / 4 - yearOfEra / 100)
  let monthFromMarch := (5 * dayOfYear + 2) / 153
  let day := dayOfYear - (153 * monthFromMarch + 2) / 5 + 1
  let month := if monthFromMarch < 10 then monthFromMarch + 3 else monthFromMarch - 9
  let year := yearOfEra + era * 400
  ⟨if month ≤ 2 then year + 1 else year, month.toNat, day.toNat⟩

end Date

/-- An instant of universal time. -/
structure Instant where
  seconds : Int
  nanos : Nat
deriving DecidableEq, Repr

namespace Instant

/-- The first second of the calendar. -/
def minSeconds : Int := -8334601228800

/-- The last second of the calendar. -/
def maxSeconds : Int := 8210266876799

/-- The instant lies within the calendar. -/
def isValid (t : Instant) : Bool :=
  minSeconds ≤ t.seconds && t.seconds ≤ maxSeconds

theorem isValid_iff {t : Instant} :
    t.isValid = true ↔ minSeconds ≤ t.seconds ∧ t.seconds ≤ maxSeconds := by
  rw [isValid, Bool.and_eq_true, decide_eq_true_eq, decide_eq_true_eq]

/-- The instant a count of seconds earlier; none if that leaves the calendar. -/
def back (t : Instant) (seconds : Int) : Option Instant :=
  let earlier : Instant := ⟨t.seconds - seconds, t.nanos⟩
  if earlier.isValid then some earlier else none

theorem back_eq_some_iff {t u : Instant} {seconds : Int} :
    t.back seconds = some u ↔ u = ⟨t.seconds - seconds, t.nanos⟩ ∧ u.isValid = true := by
  simp only [back, Option.ite_none_right_eq_some, Option.some.injEq]
  constructor
  · rintro ⟨valid, rfl⟩
    exact ⟨rfl, valid⟩
  · rintro ⟨rfl, valid⟩
    exact ⟨valid, rfl⟩

/-! ### Writing -/

/-- A number with leading zeros up to a width. -/
def padded (width n : Nat) : List Char :=
  let digits := (toString n).toList
  List.replicate (width - digits.length) '0' ++ digits

/-- A year: four digits, and with a sign outside of 0 to 9999. -/
def yearText (year : Int) : List Char :=
  if 0 ≤ year ∧ year ≤ 9999 then padded 4 year.toNat
  else (if year < 0 then '-' else '+') :: padded 4 year.natAbs

/-- The fraction of a second: none, or three, six or nine digits. -/
def fractionText (nanos : Nat) : List Char :=
  if nanos = 0 then []
  else if nanos % 1000000 = 0 then '.' :: padded 3 (nanos / 1000000)
  else if nanos % 1000 = 0 then '.' :: padded 6 (nanos / 1000)
  else '.' :: padded 9 nanos

/-- Date and time with the letter `Z` at the end. -/
def text (t : Instant) : String :=
  let days := Int.fdiv t.seconds 86400
  let d := Date.ofDays days
  let inDay := (t.seconds - days * 86400).toNat
  let leap := 1000000000 ≤ t.nanos
  let second := inDay % 60 + if leap then 1 else 0
  let nanos := if leap then t.nanos - 1000000000 else t.nanos
  .ofList (yearText d.year ++ '-' :: padded 2 d.month ++ '-' :: padded 2 d.day ++
    'T' :: padded 2 (inDay / 3600) ++ ':' :: padded 2 (inDay / 60 % 60) ++
    ':' :: padded 2 second ++ fractionText nanos ++ ['Z'])

end Instant

end Podkeeper
