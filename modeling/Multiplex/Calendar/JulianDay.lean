/-!
# Modified Julian Dates by the broadcast formula

Broadcast tables give a date as a 16-bit Modified Julian Date. EN 300 468, annex C, converts
between it and year, month and day with rounded products of decimal fractions; here they are
exact quotients of integers. From 15079 (1 March 1900) on, the formula agrees with the calendar;
earlier numbers get its own, sometimes impossible, dates.
-/

namespace Multiplex.Calendar

/-- The least 16-bit word at or above `n`, and the greatest word for all that lie beyond. -/
def saturate16 (n : Int) : UInt16 := .ofNat (min n.toNat 0xFFFF)

namespace JulianDay

/-- Whole days in `years` years of 365.25 days. -/
def yearDays (years : Int) : Int := (36525 * years) / 100

/-- Whole days in `months` months of 30.6001 days. -/
def monthDays (months : Int) : Int := (306001 * months) / 10000

/-- Year, month and day of a Modified Julian Date by the formula. -/
def civil (mjd : UInt16) : Int × Nat × Nat :=
  let n : Int := mjd.toNat
  let years := (100 * n - 1507820) / 36525
  let months := (10000 * n - 149561000 - 10000 * yearDays years) / 306001
  let day := n - 14956 - yearDays years - monthDays months
  let carry : Int := if months = 14 ∨ months = 15 then 1 else 0
  (years + carry + 1900, (months - 1 - carry * 12).toNat, day.toNat)

/-- The Modified Julian Date of a year, month and day by the formula, kept within 16 bits. -/
def ofCivil (year : Int) (month day : Nat) : UInt16 :=
  let early : Int := if month ≤ 2 then 1 else 0
  saturate16 (14956 + day + yearDays (year - 1900 - early) + monthDays (month + 1 + early * 12))

end JulianDay

end Multiplex.Calendar
