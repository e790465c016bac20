/-!
# Lengths of time

A length of time in whole seconds and nanoseconds, the nanoseconds below one second.
-/

namespace Multiplex.Calendar

/-- Nanoseconds in a second. -/
def nanosPerSecond : Nat := 1000000000

theorem nanosPerSecond_pos : 0 < nanosPerSecond := by decide

/-- A length of time. -/
structure Duration where
  seconds : Nat
  nanos : Nat := 0
  nanos_lt : nanos < nanosPerSecond := by decide
  deriving DecidableEq

namespace Duration

/-- Whole seconds. -/
def ofSeconds (seconds : Nat) : Duration := ⟨seconds, 0, nanosPerSecond_pos⟩

/-- Seconds and any number of nanoseconds; full seconds among these are carried over. -/
def ofParts (seconds nanos : Nat) : Duration :=
  ⟨seconds + nanos / nanosPerSecond, nanos % nanosPerSecond, Nat.mod_lt _ nanosPerSecond_pos⟩

/-- The length in nanoseconds. -/
def totalNanos (d : Duration) : Nat := d.seconds * nanosPerSecond + d.nanos

/-- The greatest length that can be added to an instant: 2⁶³ - 1 milliseconds. -/
def longest : Duration := ⟨9223372036854775, 807000000, by decide⟩

/-- A length that can be added to an instant. -/
def isAddable (d : Duration) : Bool := d.totalNanos ≤ longest.totalNanos

end Duration

end Multiplex.Calendar
