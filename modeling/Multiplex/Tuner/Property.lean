/-!
# Properties of a frontend

A frontend is queried and tuned property by property. Each property has a number.
-/

namespace Multiplex.Tuner.Property

/-- Tunes with the properties set before. -/
def tune : UInt32 := 1

/-- The frequency, in Hz or, for satellites, in kHz. -/
def frequency : UInt32 := 3

/-- The modulation. -/
def modulation : UInt32 := 4

/-- The bandwidth in Hz. -/
def bandwidth : UInt32 := 5

/-- The spectral inversion. -/
def inversion : UInt32 := 6

/-- Symbols in a second. -/
def symbolRate : UInt32 := 8

/-- The inner forward error correction. -/
def innerFec : UInt32 := 9

/-- The voltage that selects a polarization. -/
def voltage : UInt32 := 10

/-- The tone that selects a band. -/
def tone : UInt32 := 11

/-- The delivery system in use. -/
def deliverySystem : UInt32 := 17

/-- The version of the interface. -/
def apiVersion : UInt32 := 35

/-- The stream within a multiplex. -/
def streamId : UInt32 := 42

/-- The delivery systems that are supported. -/
def deliverySystems : UInt32 := 44

/-- The names of the properties that a scan table can set. -/
def names : List (UInt32 × String) := [
  (tune, "TUNE"), (frequency, "FREQUENCY"), (modulation, "MODULATION"),
  (bandwidth, "BANDWIDTH_HZ"), (inversion, "INVERSION"), (symbolRate, "SYMBOL_RATE"),
  (innerFec, "INNER_FEC"), (voltage, "VOLTAGE"), (tone, "TONE"),
  (deliverySystem, "DELIVERY_SYSTEM"), (streamId, "STREAM_ID")]

/-- The name of a property, a question mark if it has none. -/
def nameOf (property : UInt32) : String := (names.lookup property).getD "?"

end Multiplex.Tuner.Property
