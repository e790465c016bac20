import Multiplex.Text.Quoted
import Multiplex.Text.Record
import Multiplex.Tuner.DeliverySystem
import Multiplex.Tuner.Flags

/-!
# What a frontend says of itself

The description of a frontend that is asked for when it is opened, as JSON and as text.
-/

namespace Multiplex.Tuner

open Multiplex.Text

/-- The version of the interface to frontends. -/
structure ApiVersion where
  major : UInt8
  minor : UInt8
  deriving DecidableEq

namespace ApiVersion

/-- The version in the low two bytes of a number. -/
def ofNumber (n : UInt32) : ApiVersion := ⟨(n >>> 8).toUInt8, n.toUInt8⟩

/-- Major and minor number with a point between them. -/
def text (v : ApiVersion) : String := toString v.major.toNat ++ "." ++ toString v.minor.toNat

/-- Major and minor number. -/
def json (v : ApiVersion) : Json :=
  .object [("major", .number v.major.toNat), ("minor", .number v.minor.toNat)]

/-- The order of versions: by major number, then by minor number. -/
def precedes (a b : ApiVersion) : Bool :=
  a.major < b.major || (a.major == b.major && a.minor ≤ b.minor)

/-- The version within the long text of a value. -/
def recordText (v : ApiVersion) : String :=
  Text.recordText "ApiVersion"
    [("major", toString v.major.toNat), ("minor", toString v.minor.toNat)]

end ApiVersion

/-- What the device itself reports: a name, ranges and capabilities. -/
structure Ranges where
  name : String
  frequencyMin : UInt32
  frequencyMax : UInt32
  frequencyStep : UInt32
  frequencyTolerance : UInt32
  symbolRateMin : UInt32
  symbolRateMax : UInt32
  symbolRateTolerance : UInt32
  capabilities : Capabilities
  deriving DecidableEq

/-- The description of a frontend, as it was when the frontend was opened. -/
structure Info where
  adapter : UInt32
  index : UInt32
  apiVersion : ApiVersion
  ranges : Ranges
  deliverySystems : List DeliverySystem
  deliverySystem : DeliverySystem
  deriving DecidableEq

namespace Info

/-- The name of the frontend. -/
def name (i : Info) : String := i.ranges.name

/-- The numeric ranges by name. -/
def rangeFields (i : Info) : List (String × UInt32) := [
  ("frequency_min", i.ranges.frequencyMin), ("frequency_max", i.ranges.frequencyMax),
  ("frequency_stepsize", i.ranges.frequencyStep),
  ("frequency_tolerance", i.ranges.frequencyTolerance), ("symbol_rate_min", i.ranges.symbolRateMin),
  ("symbol_rate_max", i.ranges.symbolRateMax),
  ("symbol_rate_tolerance", i.ranges.symbolRateTolerance)]

/-- The description as JSON. -/
def json (i : Info) : Json :=
  .object ([("adapter", .number i.adapter.toNat), ("frontend", .number i.index.toNat),
      ("name", .string i.name), ("api_version", i.apiVersion.json)] ++
    i.rangeFields.map (fun (field, n) => (field, .number n.toNat)) ++
    [("caps", i.ranges.capabilities.json),
      ("delivery_systems", .array (i.deliverySystems.map (.string ·.name))),
      ("delivery_system", .string i.deliverySystem.name)])

/-- The description as long text. -/
def recordText (i : Info) : String :=
  Text.recordText "FrontendInfo" ([("adapter", toString i.adapter.toNat),
      ("frontend", toString i.index.toNat), ("name", quoted i.name),
      ("api_version", i.apiVersion.recordText)] ++
    i.rangeFields.map (fun (field, n) => (field, toString n.toNat)) ++
    [("caps", wrappedText "FrontendCaps" (toString i.ranges.capabilities.bits.toNat)),
      ("delivery_systems", listText (i.deliverySystems.map (·.label))),
      ("delivery_system", i.deliverySystem.label)])

end Info

end Multiplex.Tuner
