import Multiplex.Demux.Settings
import Mathlib.Tactic

/-!
# The settings of section filters

A section filter begins with the settings of one table, and its user makes some choices about them,
one after the other. Of the choices about the timeout the last one counts. A demux is told of it in
whole milliseconds, and takes zero for no timeout at all: parts of a millisecond are lost, so every
timeout below one millisecond becomes none.

Main statements:

* `timeout_of_configure`: the timeout is the last that was chosen;
* `SectionSettings.millis_eq_zero_iff`, `SectionSettings.millis_mono`: what becomes of a timeout.
-/

namespace Multiplex.Demux

open Multiplex.Calendar Multiplex.Device

/-- Nanoseconds in a millisecond. -/
def nanosPerMilli : Nat := 1000000

/-- A choice about the settings of a section filter. -/
inductive Choice
  | timeout (limit : Duration)
  | checkCrc (on : Bool)
  | oneshot (on : Bool)
  | matchByte (index : Nat) (value mask : UInt8)

namespace Choice

/-- The settings after a choice. -/
def apply (s : SectionSettings) : Choice → Except Failure SectionSettings
  | timeout limit => .ok { s with timeout := limit }
  | checkCrc on => .ok { s with checkCrc := on }
  | oneshot on => .ok { s with oneshot := on }
  | matchByte index value mask => s.matchByte index value mask

/-- The timeout after a choice. -/
def timeoutAfter (limit : Duration) : Choice → Duration
  | timeout limit' => limit'
  | checkCrc _ | oneshot _ | matchByte .. => limit

theorem timeout_of_apply {s s' : SectionSettings} {c : Choice} (h : apply s c = .ok s') :
    s'.timeout = timeoutAfter s.timeout c := by
  cases c with
  | timeout | checkCrc | oneshot =>
      cases h
      rfl
  | matchByte index value mask =>
      unfold apply SectionSettings.matchByte at h
      dsimp only at h
      split_ifs at h
      cases h
      rfl

end Choice

/-- The settings of a section filter after some choices, up to the first that is refused. -/
def configure (pid : UInt16) (tableId : UInt8) (choices : List Choice) :
    Except Failure SectionSettings :=
  choices.foldlM Choice.apply (.ofTable pid tableId)

/-- The timeout that was chosen last, or no timeout. -/
def lastTimeout (choices : List Choice) : Duration :=
  choices.foldl Choice.timeoutAfter (.ofSeconds 0)

theorem timeout_of_foldlM {choices : List Choice} {s s' : SectionSettings}
    (h : choices.foldlM Choice.apply s = .ok s') :
    s'.timeout = choices.foldl Choice.timeoutAfter s.timeout := by
  induction choices generalizing s with
  | nil =>
      cases h
      rfl
  | cons c rest ih =>
      rw [List.foldlM_cons] at h
      cases hc : Choice.apply s c with
      | error failure =>
          rw [hc] at h
          cases h
      | ok s₁ =>
          rw [hc] at h
          rw [ih h, Choice.timeout_of_apply hc, List.foldl_cons]

/-- The timeout is the last that was chosen. -/
theorem timeout_of_configure {pid : UInt16} {tableId : UInt8} {choices : List Choice}
    {s : SectionSettings} (h : configure pid tableId choices = .ok s) :
    s.timeout = lastTimeout choices :=
  timeout_of_foldlM h

namespace SectionSettings

/-! ### Milliseconds -/

theorem totalNanos_div_nanosPerMilli (d : Duration) :
    d.totalNanos / nanosPerMilli = d.seconds * 1000 + d.nanos / 1000000 := by
  unfold Duration.totalNanos nanosPerSecond nanosPerMilli
  omega

/-- A timeout is told in whole milliseconds, and as the greatest number if there are more. -/
theorem toNat_millis (d : Duration) :
    (millis d).toNat = min (d.totalNanos / nanosPerMilli) (UInt32.size - 1) := by
  have size : UInt32.size - 1 < UInt32.size := by decide
  have fits : min (d.seconds * 1000 + d.nanos / 1000000) (UInt32.size - 1) < UInt32.size :=
    lt_of_le_of_lt (min_le_right _ _) size
  rw [totalNanos_div_nanosPerMilli, millis, UInt32.toNat_ofNat_of_lt' fits]

/-- The timeouts that are told as none are those below a millisecond. -/
theorem millis_eq_zero_iff (d : Duration) : millis d = 0 ↔ d.totalNanos < nanosPerMilli := by
  have pos : 0 < nanosPerMilli := by decide
  have size : 0 < UInt32.size - 1 := by decide
  rw [← UInt32.toNat_inj, toNat_millis, UInt32.toNat_zero, ← Nat.div_eq_zero_iff_lt pos]
  omega

/-- A longer timeout is told as no less. -/
theorem millis_mono {d d' : Duration} (h : d.totalNanos ≤ d'.totalNanos) :
    millis d ≤ millis d' := by
  rw [UInt32.le_iff_toNat_le, toNat_millis, toNat_millis]
  exact min_le_min_right _ (Nat.div_le_div_right h)

/-- Settings are programmed with their timeout in milliseconds. -/
theorem timeout_of_program {s : SectionSettings} {program : SectionProgram}
    (h : s.program = .ok program) : program.timeout = millis s.timeout := by
  unfold SectionSettings.program at h
  cases hp : checkPid s.pid with
  | error failure =>
      rw [hp] at h
      cases h
  | ok =>
      rw [hp] at h
      cases h
      rfl

end SectionSettings

theorem timeout_of_configured {pid : UInt16} {tableId : UInt8} {choices : List Choice}
    {s : SectionSettings} {program : SectionProgram} (hs : configure pid tableId choices = .ok s)
    (hp : s.program = .ok program) :
    program.timeout = SectionSettings.millis (lastTimeout choices) := by
  rw [SectionSettings.timeout_of_program hp, timeout_of_configure hs]

end Multiplex.Demux
