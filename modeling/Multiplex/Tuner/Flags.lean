import Multiplex.Json

/-!
# Flag words of a frontend

A frontend reports what it can do and what it sees as words of flags. Each flag has a name; bits
without a name are left out of every text.
-/

namespace Multiplex.Tuner

/-- The named flags of a word, in the order of display. -/
abbrev FlagTable := List (UInt32 × String)

/-- Whether all bits of `flag` are set. -/
def hasFlag (bits flag : UInt32) : Bool := bits &&& flag == flag

/-- The names of the flags that are set. -/
def FlagTable.namesOf (table : FlagTable) (bits : UInt32) : List String :=
  (table.filter fun (flag, _) => hasFlag bits flag).map (·.2)

/-- Names with bars between them, `none` if there are none. -/
def flagText (names : List String) : String :=
  if names.isEmpty then "none" else String.intercalate "|" names

/-- What a frontend can do. -/
structure Capabilities where
  bits : UInt32
  deriving DecidableEq

namespace Capabilities

/-- The capabilities that have a name. -/
def table : FlagTable := [
  (0x1, "INVERSION_AUTO"), (0x2, "FEC_1_2"), (0x4, "FEC_2_3"), (0x8, "FEC_3_4"), (0x10, "FEC_4_5"),
  (0x20, "FEC_5_6"), (0x40, "FEC_6_7"), (0x80, "FEC_7_8"), (0x100, "FEC_8_9"), (0x200, "FEC_AUTO"),
  (0x400, "QPSK"), (0x800, "QAM_16"), (0x1000, "QAM_32"), (0x2000, "QAM_64"), (0x4000, "QAM_128"),
  (0x8000, "QAM_256"), (0x10000, "QAM_AUTO"), (0x20000, "TRANSMISSION_MODE_AUTO"),
  (0x40000, "BANDWIDTH_AUTO"), (0x80000, "GUARD_INTERVAL_AUTO"), (0x100000, "HIERARCHY_AUTO"),
  (0x200000, "8VSB"), (0x400000, "16VSB"), (0x800000, "HAS_EXTENDED_CAPS"),
  (0x4000000, "MULTISTREAM"), (0x8000000, "TURBO_FEC"), (0x10000000, "2G_MODULATION"),
  (0x20000000, "NEEDS_BENDING"), (0x40000000, "RECOVER"), (0x80000000, "MUTE_TS")]

/-- The names of the capabilities. -/
def names (c : Capabilities) : List String := table.namesOf c.bits

/-- The capabilities as text. -/
def text (c : Capabilities) : String := flagText c.names

/-- The names as JSON. -/
def json (c : Capabilities) : Json := .array (c.names.map .string)

end Capabilities

/-- What a frontend sees of the signal. -/
structure Status where
  bits : UInt32
  deriving DecidableEq

namespace Status

/-- The flag of a frontend that is locked to a signal. -/
def lockFlag : UInt32 := 0x10

/-- The states that have a name. -/
def table : FlagTable := [
  (0x01, "SIGNAL"), (0x02, "CARRIER"), (0x04, "VITERBI"), (0x08, "SYNC"), (lockFlag, "LOCK"),
  (0x20, "TIMEDOUT"), (0x40, "REINIT")]

/-- The names of the states. -/
def names (s : Status) : List String := table.namesOf s.bits

/-- The states as text. -/
def text (s : Status) : String := flagText s.names

/-- The names as JSON. -/
def json (s : Status) : Json := .array (s.names.map .string)

/-- Whether the frontend is locked to a signal. -/
def isLocked (s : Status) : Bool := hasFlag s.bits lockFlag

end Status

end Multiplex.Tuner
