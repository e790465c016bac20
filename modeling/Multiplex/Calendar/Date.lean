/-!
# Civil dates

A `Date` is a day of the proleptic Gregorian calendar; the fields name a real day by
construction. `dayNumber` counts days from 17 November 1858, the origin of the Modified Julian
Date, and `ofDayNumber` finds the day with a given count.
-/

namespace Multiplex.Calendar

/-- Every fourth year is a leap year, except the centuries that 400 does not divide. -/
def isLeapYear (year : Int) : Bool :=
  year % 4 == 0 && (year % 100 != 0 || year % 400 == 0)

/-- The length of a month; numbers outside 1 to 12 name no month and have no days. -/
def daysInMonth (year : Int) : (month : Nat) → Nat
  | 1 | 3 | 5 | 7 | 8 | 10 | 12 => 31
  | 4 | 6 | 9 | 11 => 30
  | 2 => if isLeapYear year then 29 else 28
  | _ => 0

/-- The days of a year before the first of `month`. -/
def daysBeforeMonth (year : Int) : (month : Nat) → Nat
  | 0 => 0
  | month + 1 => daysBeforeMonth year month + daysInMonth year month

/-- The days from 1 January of year 1 to 1 January of `year`. -/
def daysBeforeYear (year : Int) : Int :=
  let past := year - 1
  365 * past + past / 4 - past / 100 + past / 400

/-- A day of the proleptic Gregorian calendar. -/
structure Date where
  year : Int
  month : Nat
  day : Nat
  one_le_day : 1 ≤ day := by decide
  day_le : day ≤ daysInMonth year month := by decide
  deriving DecidableEq

namespace Date

/-- The day with these fields, when there is one. -/
def ofFields? (year : Int) (month day : Nat) : Option Date :=
  if h : 1 ≤ day ∧ day ≤ daysInMonth year month then some ⟨year, month, day, h.1, h.2⟩ else none

/-- The count of 17 November 1858 from 1 January of year 1. -/
def origin : Int := 678575

/-- Days after 17 November 1858, negative for earlier days. -/
def dayNumber (d : Date) : Int :=
  daysBeforeYear d.year + daysBeforeMonth d.year d.month + (d.day - 1 : Nat) - origin

/-- The last day of a year. -/
def yearEnd (year : Int) : Date := ⟨year, 12, 31, Nat.le_add_left 1 30, Nat.le_refl 31⟩

/-- The day that comes `rest` days after the first of the month `12 - later`. Days beyond the
year's end stay on its last day. -/
def inYear (year : Int) : (later rest : Nat) → Date
  | 0, rest =>
    if h : rest < daysInMonth year 12 then ⟨year, 12, rest + 1, by omega, h⟩ else yearEnd year
  | later + 1, rest =>
    if h : rest < daysInMonth year (11 - later) then ⟨year, 11 - later, rest + 1, by omega, h⟩
    else inYear year later (rest - daysInMonth year (11 - later))

/-- The day with the given day number. Four-century, century and four-year cycles are counted
off in turn; the last century and the last year of their cycles are a day longer. -/
def ofDayNumber (n : Int) : Date :=
  let fromYearOne := n + origin
  let fourCenturies := fromYearOne / 146097
  let rest := (fromYearOne % 146097).toNat
  let centuries := min (rest / 36524) 3
  let rest := rest - centuries * 36524
  let fourYears := rest / 1461
  let rest := rest % 1461
  let years := min (rest / 365) 3
  let rest := rest - years * 365
  inYear (fourCenturies * 400 + centuries * 100 + fourYears * 4 + years + 1) 11 rest

example : (⟨1858, 11, 17, by decide, by decide⟩ : Date).dayNumber = 0 := by decide
example : (ofDayNumber 15079).month = 3 ∧ (ofDayNumber 15079).year = 1900 := by decide +kernel

end Date

end Multiplex.Calendar
