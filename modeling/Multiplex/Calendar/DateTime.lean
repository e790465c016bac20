import Multiplex.Calendar.Date
import Multiplex.Calendar.Duration
import Multiplex.Text.Numeral

/-!
# Instants in UTC

A `DateTime` is a civil day and a time of that day. It can be moved on by a duration, and has
two texts: the exact one of RFC 3339 and one for people.
-/

namespace Multiplex.Calendar

open Multiplex.Text

/-- Nanoseconds in a second that a leap second follows, this one included. -/
def nanosWithLeap : Nat := 2000000000

/-- A day and a time of day in UTC. Days have 86400 seconds, and a leap second belongs to the second
before it. -/
@[ext]
structure DateTime where
  date : Date
  hour : Nat
  minute : Nat
  second : Nat
  /-- Nanoseconds after the second; from one second on they are in a leap second. -/
  nanos : Nat := 0
  hour_lt : hour < 24 := by decide
  minute_lt : minute < 60 := by decide
  second_lt : second < 60 := by decide
  nanos_lt : nanos < nanosWithLeap := by decide

instance : DecidableEq DateTime := fun _ _ => decidable_of_iff _ DateTime.ext_iff.symm

namespace DateTime

/-- A whole second of a day, when the three numbers name one. -/
def ofFields? (date : Date) (hour minute second : Nat) : Option DateTime :=
  if h : hour < 24 ∧ minute < 60 ∧ second < 60 then
    some { date, hour, minute, second, hour_lt := h.1, minute_lt := h.2.1, second_lt := h.2.2
           nanos_lt := Nat.zero_lt_succ _ }
  else none

/-- The leap second that may follow a time. -/
def leapSecond (t : DateTime) : DateTime :=
  { t with nanos := nanosPerSecond, nanos_lt := by decide }

/-- Seconds since midnight. -/
def secondOfDay (t : DateTime) : Nat := t.hour * 3600 + t.minute * 60 + t.second

/-- Whole seconds since the start of 17 November 1858. -/
def seconds (t : DateTime) : Int := t.date.dayNumber * 86400 + t.secondOfDay

/-- The instant so many seconds and nanoseconds after the start of 17 November 1858; nanoseconds
above a second are carried over. -/
def ofSeconds (seconds : Int) (nanos : Nat) : DateTime :=
  let total := seconds + (nanos / nanosPerSecond : Nat)
  let ofDay := (total % 86400).toNat
  { date := Date.ofDayNumber (total / 86400)
    hour := ofDay / 3600 % 24
    minute := ofDay / 60 % 60
    second := ofDay % 60
    nanos := nanos % nanosPerSecond
    hour_lt := Nat.mod_lt _ (by decide)
    minute_lt := Nat.mod_lt _ (by decide)
    second_lt := Nat.mod_lt _ (by decide)
    nanos_lt := Nat.lt_trans (Nat.mod_lt _ nanosPerSecond_pos) (by decide) }

/-- The instant a duration later. A leap second is left by more than its rest, and counts as the
second it belongs to then. -/
def add (t : DateTime) (d : Duration) : DateTime :=
  if h : nanosPerSecond ≤ t.nanos ∧ d.seconds = 0 ∧ t.nanos + d.nanos < nanosWithLeap then
    { t with nanos := t.nanos + d.nanos, nanos_lt := h.2.2 }
  else ofSeconds (t.seconds + d.seconds) (t.nanos % nanosPerSecond + d.nanos)

/-- The year in four digits; years beyond these four digits carry their sign. -/
def yearText (year : Int) : String :=
  if year < 0 then "-" ++ decimal 4 year.natAbs
  else if year ≤ 9999 then decimal 4 year.toNat
  else "+" ++ decimal 4 year.toNat

/-- `YYYY-MM-DD`. -/
def dateText (t : DateTime) : String :=
  yearText t.date.year ++ "-" ++ decimal 2 t.date.month ++ "-" ++ decimal 2 t.date.day

/-- `hh:mm:ss`. A leap second counts up. -/
def clockText (t : DateTime) : String :=
  decimal 2 t.hour ++ ":" ++ decimal 2 t.minute ++ ":" ++
    decimal 2 (t.second + t.nanos / nanosPerSecond)

/-- The fraction of a second in 3, 6 or 9 digits, the fewest that are exact; none if it is zero. -/
def fractionText (nanos : Nat) : String :=
  if nanos = 0 then ""
  else if nanos % 1000000 = 0 then "." ++ decimal 3 (nanos / 1000000)
  else if nanos % 1000 = 0 then "." ++ decimal 6 (nanos / 1000)
  else "." ++ decimal 9 nanos

/-- The text of RFC 3339 in UTC. -/
def rfc3339 (t : DateTime) : String :=
  t.dateText ++ "T" ++ t.clockText ++ fractionText (t.nanos % nanosPerSecond) ++ "Z"

/-- Date and time with a blank between them, to the second. -/
def displayText (t : DateTime) : String := t.dateText ++ " " ++ t.clockText

/-- Reads `YYYY-MM-DDThh:mm:ssZ`. The 60th second of a minute is a leap second. -/
def ofText? (text : String) : Option DateTime := do
  let digits (from? count : Nat) := readDigits? 10 ((text.toList.drop from?).take count)
  let date ← Date.ofFields? (← digits 0 4) (← digits 5 2) (← digits 8 2)
  let (hour, minute, second) := (← digits 11 2, ← digits 14 2, ← digits 17 2)
  if second = 60 then return (← ofFields? date hour minute 59).leapSecond
  else ofFields? date hour minute second

end DateTime

end Multiplex.Calendar
