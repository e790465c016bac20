import Multiplex.Calendar.DateTime
import Multiplex.Calendar.JulianDay
import Multiplex.Wire.Order

/-!
# Start and duration fields

The time fields of an event: a start of five bytes (Modified Julian Date, then hour, minute and
second in binary-coded decimal) and a duration of three. Five bytes of ones mean that the start
is not known. A duration is read digit by digit even where a digit is above nine, and written in
proper decimal digits, at most 99:59:59.
-/

namespace Multiplex.Calendar

namespace Bcd

/-- The number a byte of two decimal digits stands for. -/
def decode? (b : UInt8) : Option Nat :=
  let (high, low) := (b.toNat / 16, b.toNat % 16)
  if high < 10 ∧ low < 10 then some (high * 10 + low) else none

/-- The number a byte of two digits stands for, digits up to fifteen. -/
def value (b : UInt8) : Nat := b.toNat / 16 * 10 + b.toNat % 16

/-- The byte with the two decimal digits of `n`; the upper digit is lost from 160 on. -/
def encode (n : Nat) : UInt8 := .ofNat (n / 10 * 16 + n % 10)

end Bcd

/-- The five bytes of a start time. -/
structure StartField where
  mjd : UInt16
  hour : UInt8
  minute : UInt8
  second : UInt8
  deriving DecidableEq

namespace StartField

/-- The field that says that the start is not known. -/
def unknown : StartField := ⟨0xFFFF, 0xFF, 0xFF, 0xFF⟩

/-- The field as it stands in a table. -/
def bytes (f : StartField) : List UInt8 := Wire.big16 f.mjd ++ [f.hour, f.minute, f.second]

/-- The instant of a field that names one. -/
def instant? (f : StartField) : Option DateTime := do
  let (year, month, day) := JulianDay.civil f.mjd
  let hour ← Bcd.decode? f.hour
  let minute ← Bcd.decode? f.minute
  let second ← Bcd.decode? f.second
  DateTime.ofFields? (← Date.ofFields? year month day) hour minute second

/-- The start a field stands for: `some none` if it is not known, `none` if the field names no
instant. -/
def decode? (f : StartField) : Option (Option DateTime) :=
  if f = unknown then some none else f.instant?.map some

/-- The field of a start. Fractions of a second are dropped. -/
def encode : Option DateTime → StartField
  | none => unknown
  | some t =>
    ⟨JulianDay.ofCivil t.date.year t.date.month t.date.day,
      Bcd.encode t.hour, Bcd.encode t.minute, Bcd.encode t.second⟩

end StartField

/-- The three bytes of a duration. -/
structure DurationField where
  hours : UInt8
  minutes : UInt8
  seconds : UInt8
  deriving DecidableEq

namespace DurationField

/-- The field as it stands in a table. -/
def bytes (f : DurationField) : List UInt8 := [f.hours, f.minutes, f.seconds]

/-- The duration a field stands for, each digit at face value. -/
def decode (f : DurationField) : Duration :=
  .ofSeconds (Bcd.value f.hours * 3600 + Bcd.value f.minutes * 60 + Bcd.value f.seconds)

/-- The longest duration that fits the field, 99:59:59. -/
def maxSeconds : Nat := 359999

/-- The field of a duration, in whole seconds and at most 99:59:59. -/
def encode (d : Duration) : DurationField :=
  let s := min d.seconds maxSeconds
  ⟨Bcd.encode (s / 3600), Bcd.encode (s / 60 % 60), Bcd.encode (s % 60)⟩

end DurationField

end Multiplex.Calendar
